/-
This file reads documents as values of known shapes. A decoder meets the parts of a document in the
order of the text and reports the first fault it meets.
-/

import AccessGraph.Json.Document

namespace AccessGraph

/-- A document was written as a text, or given as a value, or is a part that was set aside until the
kind of value around it was known. -/
inductive Origin where
  | text
  | value
  | captured
deriving DecidableEq, Repr

abbrev Decoder (α : Type) := Origin → Document → Except Fault α

namespace Decoder

def refuse {α : Type} (fault : ShapeFault) : Except Fault α :=
  .error (.shape fault)

/-- A part of another shape is reported as what it is, unless it is itself at fault. -/
def mismatch {α : Type} (expected : String) : Document → Except Fault α
  | .absent fault => .error fault
  | .literal (.error fault) => .error fault
  | .literal (.ok .null) => refuse (.wrongType .null expected)
  | .literal (.ok (.boolean value)) => refuse (.wrongType (.boolean value) expected)
  | .number leaf =>
      match leaf.value with
      | .error fault => .error fault
      | .ok (.integer value) => refuse (.wrongType (.integer value) expected)
      | .ok (.decimal digits) => refuse (.wrongType (.decimal digits) expected)
  | .text leaf =>
      match leaf.value with
      | .error fault => .error fault
      | .ok value => refuse (.wrongType (.text value) expected)
  | .array _ _ => refuse (.wrongType .sequence expected)
  | .object _ _ _ => refuse (.wrongType .map expected)

/-- A part that is passed over may still stop the reader. -/
def skip (document : Document) : Except Fault Unit :=
  match document.broken with
  | some fault => .error fault
  | none => .ok ()

/-- An array or an object that breaks off is refused after what it holds. -/
def complete {α : Type} (cut : Option Fault) (value : α) : Except Fault α :=
  match cut with
  | some fault => .error fault
  | none => .ok value

def text : Decoder String := fun _ document =>
  match document with
  | .text leaf => leaf.value
  | _ => mismatch "a string" document

def boolean : Decoder Bool := fun _ document =>
  match document with
  | .literal (.ok (.boolean value)) => .ok value
  | _ => mismatch "a boolean" document

/-- A count is never negative. -/
def count : Decoder Nat := fun _ document =>
  match document with
  | .number leaf =>
      match leaf.value with
      | .ok (.integer (.ofNat value)) => .ok value
      | .ok (.integer value) => refuse (.wrongValue (.integer value) "usize")
      | _ => mismatch "usize" document
  | _ => mismatch "usize" document

/-- A count that fits a word of 64 bits. -/
def word : Decoder UInt64 := fun origin document => do
  let value ← count origin document
  if value < UInt64.size then .ok (.ofNat value)
  else refuse (.wrongValue (.integer value) "usize")

/-- Nothing is written as null. -/
def option {α : Type} (decoder : Decoder α) : Decoder (Option α) := fun origin document =>
  match document with
  | .literal (.ok .null) => .ok none
  | _ => (decoder origin document).map some

def elements {α : Type} (decoder : Decoder α) (origin : Origin) :
    List Document → Except Fault (List α)
  | [] => .ok []
  | element :: rest => do
      let element ← decoder origin element
      let rest ← elements decoder origin rest
      .ok (element :: rest)

def list {α : Type} (decoder : Decoder α) : Decoder (List α) := fun origin document =>
  match document with
  | .array parts cut => do complete cut (← elements decoder origin parts)
  | _ => mismatch "a sequence" document

/-- The entries of an object go in one after the other. -/
def entries {α β : Type} (decoder : Decoder α) (put : String → α → β → β) (origin : Origin) :
    β → List (Leaf String × Document) → Except Fault β
  | collected, [] => .ok collected
  | collected, (key, value) :: rest => do
      let key ← key.value
      let value ← decoder origin value
      entries decoder put origin (put key value collected) rest

def map {α β : Type} (decoder : Decoder α) (empty : β) (put : String → α → β → β) : Decoder β :=
  fun origin document =>
    match document with
    | .object members _ cut => do complete cut (← entries decoder put origin empty members)
    | _ => mismatch "a map" document

/-- The content of a variant that has none is null; a part set aside may also be an empty object. -/
def noContent (origin : Origin) (document : Document) : Except Fault Unit :=
  match origin, document with
  | _, .literal (.ok .null) => .ok ()
  | .captured, .object [] false none => .ok ()
  | _, _ => mismatch "unit" document

/-- A variant goes by its name, and some go by two. -/
def variant {α : Type} (names : List (String × α)) (name : String) : Except Fault α :=
  match names.find? (·.1 == name) with
  | some entry => .ok entry.2
  | none => refuse (.unknownVariant name (names.map (·.1)))

/-- In a text the object around a variant holds this one member and ends after it. -/
def textVariant {α : Type} (names : List (String × α)) (unkeyed : Bool) (cut : Option Fault) :
    List (Leaf String × Document) → Except Fault α
  | [] => .error (cut.getD .malformed)
  | (key, content) :: rest => do
      let value ← variant names (← key.value)
      noContent .text content
      if rest.isEmpty && !unkeyed then complete cut value else .error .malformed

/-- A choice is written as the name of a variant, or as an object that holds null under the name. -/
def choice {α : Type} (names : List (String × α)) : Decoder α := fun origin document =>
  match document with
  | .text leaf => do variant names (← leaf.value)
  | .object members unkeyed cut =>
      match origin, members with
      | .text, _ => textVariant names unkeyed cut members
      | _, [(key, content)] => do
          let value ← variant names (← key.value)
          noContent origin content
          .ok value
      | _, _ => refuse (.wrongValue .map "map with a single key")
  | .absent fault => .error fault
  | _ => if origin = .text then .error .malformed else mismatch "string or map" document

end Decoder

/-- A field of a record: its name and those it also goes by, whether it has to be there, and how it
is read into the record. -/
structure Field (α : Type) where
  name : String
  also : List String
  required : Bool
  read : Origin → Document → α → Except Fault α

namespace Field

def of {α β : Type} (required : Bool) (name : String) (also : List String) (decoder : Decoder β)
    (put : β → α → α) : Field α :=
  ⟨name, also, required, fun origin document record => do
    let value ← decoder origin document
    .ok (put value record)⟩

/-- A field that has to be there. -/
def needed {α β : Type} (name : String) (decoder : Decoder β) (put : β → α → α) : Field α :=
  of true name [] decoder put

/-- A field that keeps what the blank record holds when it is not there. -/
def optional {α β : Type} (name : String) (decoder : Decoder β) (put : β → α → α) : Field α :=
  of false name [] decoder put

def goesBy {α : Type} (field : Field α) (name : String) : Bool :=
  field.name == name || field.also.contains name

end Field

/-- A shape with named fields, and the record that all of them are read into. -/
structure Record (α : Type) where
  title : String
  blank : α
  fields : List (Field α)

namespace Record

def plural (count : Nat) : String :=
  toString count ++ (if count = 1 then " element" else " elements")

def expected {α : Type} (record : Record α) : String :=
  record.title ++ " with " ++ plural record.fields.length

/-- A member with the name of a field is read into the record, but not twice; others are passed
over. The names of the fields read so far are kept. -/
def takeMembers {α : Type} (fields : List (Field α)) (origin : Origin) :
    List String → α → List (Leaf String × Document) → Except Fault (List String × α)
  | seen, value, [] => .ok (seen, value)
  | seen, value, (key, document) :: rest => do
      let key ← key.value
      match fields.find? (·.goesBy key) with
      | none => do
          Decoder.skip document
          takeMembers fields origin seen value rest
      | some field =>
          if seen.contains field.name then Decoder.refuse (.duplicateField field.name)
          else do
            let value ← field.read origin document value
            takeMembers fields origin (field.name :: seen) value rest

/-- The first field that has to be there and is not is reported. -/
def checkNeeded {α : Type} (fields : List (Field α)) (seen : List String) : Except Fault Unit :=
  match fields.find? fun field => field.required && !seen.contains field.name with
  | some field => Decoder.refuse (.missingField field.name)
  | none => .ok ()

/-- Elements are read into the fields in their order. The first number counts the fields passed. -/
def takeElements {α : Type} (record : Record α) (origin : Origin) (cut : Option Fault)
    (total : Nat) : Nat → List (Field α) → List Document → α → Except Fault α
  | _, [], [], value => Decoder.complete cut value
  | _, [], _ :: _, _ =>
      match origin with
      | .text => .error .malformed
      | .value => Decoder.refuse (.wrongLength total "fewer elements in array")
      | .captured =>
          Decoder.refuse (.wrongLength total (plural record.fields.length ++ " in sequence"))
  | passed, field :: fields, [], value => do
      Decoder.complete cut ()
      if field.required then Decoder.refuse (.wrongLength passed record.expected)
      else takeElements record origin cut total (passed + 1) fields [] value
  | passed, field :: fields, element :: elements, value => do
      let value ← field.read origin element value
      takeElements record origin cut total (passed + 1) fields elements value

def ofMembers {α : Type} (record : Record α) (origin : Origin)
    (members : List (Leaf String × Document)) (cut : Option Fault) : Except Fault α := do
  let (seen, value) ← takeMembers record.fields origin [] record.blank members
  Decoder.complete cut ()
  checkNeeded record.fields seen
  .ok value

def ofElements {α : Type} (record : Record α) (origin : Origin) (elements : List Document)
    (cut : Option Fault) : Except Fault α :=
  takeElements record origin cut elements.length 0 record.fields elements record.blank

/-- A record is written as an object, or as an array of its fields. -/
def decode {α : Type} (record : Record α) : Decoder α := fun origin document =>
  match document with
  | .object members _ cut => record.ofMembers origin members cut
  | .array elements cut => record.ofElements origin elements cut
  | _ => Decoder.mismatch record.title document

end Record

namespace Decoder

/-- The whole text is one document; what comes after it is looked at last. -/
def readText {α : Type} (decoder : Decoder α) (text : String) : Except Fault α := do
  let reading := Document.read text
  let value ← decoder .text reading.root
  complete reading.trailing value

/-- The members of the objects in a value are read in the order in which they stand. -/
def readValue {α : Type} (decoder : Decoder α) (value : Json) : Except Fault α :=
  decoder .value (.ofJson value)

end Decoder

end AccessGraph
