/-
This file reads the resources that a cluster serves from documents.
-/

import AccessGraph.Discovery.Basic
import AccessGraph.Json.Decode

namespace AccessGraph.Discovery

open Decoder

def Entry.record : Record Entry where
  title := "struct ApiResource"
  blank := ⟨"", "", []⟩
  fields := [
    .optional "group" text fun value entry => { entry with group := value },
    .needed "resource" text fun value entry => { entry with resource := value },
    .optional "verbs" (list text) fun value entry => { entry with verbs := value }]

/-- The document as it is written, before its names are normalised. -/
structure Listing where
  resources : List Entry
  urls : List String
deriving DecidableEq, Repr

def Listing.record : Record Listing where
  title := "struct DiscoveryDocument"
  blank := ⟨[], []⟩
  fields := [
    .optional "resources" (list Entry.record.decode) fun value listing =>
      { listing with resources := value },
    .optional "nonResourceURLs" (list text) fun value listing => { listing with urls := value }]

/-- This function reads what a cluster serves from the text of a document. -/
def parse (document : String) : Except Fault Discovery := do
  let listing ← readText Listing.record.decode document
  .ok (ofEntries listing.resources listing.urls)

end AccessGraph.Discovery
