/-
This file says why a query is refused.
-/

import AccessGraph.Graph.Basic
import AccessGraph.Request.Codec

namespace AccessGraph

/-- A request does not make sense, a document cannot be read, or the graph that was built is at
fault. -/
inductive QueryError where
  | invalidRequest (fault : RequestFault)
  | document (fault : Fault)
  | internal (fault : GraphFault)
deriving DecidableEq, Repr

namespace QueryError

/-- Only a graph at fault is not the fault of whoever asks. -/
def isClientError : QueryError → Bool
  | .invalidRequest _ => true
  | .document _ => true
  | .internal _ => false

/-- A document that is no document has no message. -/
def message? : QueryError → Option String
  | .invalidRequest fault => some ("invalid request: " ++ fault.message)
  | .document (.shape fault) => some ("json error: " ++ fault.message)
  | .document _ => none
  | .internal fault => some ("internal error: " ++ fault.message)

end QueryError

/-- This function reads a request from the text of a document and looks whether it makes sense. -/
def Request.parse (document : String) : Except QueryError Request := do
  let request ← (Decoder.readText Request.record.decode document).mapError .document
  request.validate.mapError .invalidRequest
  .ok request

end AccessGraph
