/-
This file says when a decoder restores what was written: from the value itself, from one whose
members were arranged in another order, and from the text of either.
-/

import AccessGraph.Proofs.Json.Printing
import AccessGraph.Proofs.Json.Record

namespace AccessGraph

open Json (Arrangement Plain)

/-- What is written of a result is plain, and is read as this result however it is arranged. -/
structure Decoder.Restores {α : Type} (decoder : Decoder α) (value : Json) (result : α) : Prop where
  plain : value.Plain
  reads : ∀ arrangement, decoder.Reads arrangement value result

namespace Decoder.Restores

theorem text (content : String) : Restores Decoder.text (.text content) content :=
  ⟨.text content, fun _ => reads_text content⟩

theorem boolean (content : Bool) : Restores Decoder.boolean (.boolean content) content :=
  ⟨.boolean content, fun _ => reads_boolean content⟩

theorem word (number : UInt64) : Restores Decoder.word (Json.count number.toNat) number :=
  ⟨.word number, fun _ => reads_word number⟩

section

variable {α : Type} {decoder : Decoder α} {encode : α → Json}

theorem list (each : ∀ element, Restores decoder (encode element) element) (elements : List α) :
    Restores (Decoder.list decoder) (.list encode elements) elements :=
  ⟨.list (fun element => (each element).plain) elements,
    fun arrangement => reads_list fun element _ => (each element).reads arrangement⟩

theorem texts (elements : List String) :
    Restores (Decoder.list Decoder.text) (Json.texts elements) elements :=
  list text elements

/-- What may be missing is restored if null is not read as something. -/
theorem optional (each : ∀ content, Restores decoder (encode content) content)
    (refuses : ∀ origin content, decoder origin (.literal (.ok .null)) ≠ .ok content)
    (content : Option α) :
    Restores (Decoder.option decoder) (Json.optional encode content) content :=
  ⟨.optional (fun inner => (each inner).plain) content,
    fun arrangement => reads_optional (fun inner => (each inner).reads arrangement) refuses content⟩

theorem choice {names : List (String × α)} {name : String} {result : α}
    (known : variant names name = .ok result) :
    Restores (Decoder.choice names) (.text name) result :=
  ⟨.text name, fun _ => reads_choice known⟩

end

/-- The text of a value is read as what was written, be its members in their order or in that of
their keys. -/
theorem readText {α : Type} {decoder : Decoder α} {value : Json} {result : α}
    (restores : Restores decoder value result) :
    Decoder.readText decoder value.print = .ok result ∧
      Decoder.readText decoder value.ordered.print = .ok result := by
  have asGiven := readText_print (restores.reads .asGiven) restores.plain
  have byKey := readText_print (restores.reads .byKey) restores.plain.ordered
  exact ⟨asGiven, byKey⟩

end Decoder.Restores

/-- A field restores what is always written of it. -/
structure Field.Restores {α : Type} (field : Field α) (part : Written α) : Prop where
  plain : part.value.Plain
  takes : ∀ arrangement blank, Field.Takes arrangement blank field part

theorem Field.Restores.of {α β : Type} {required : Bool} {name : String} {also : List String}
    {decoder : Decoder β} {put : β → α → α} {value : Json} {result : β}
    (restores : decoder.Restores value result) :
    Field.Restores (.of required name also decoder put) ⟨name, true, value, put result⟩ :=
  ⟨restores.plain, fun arrangement _ => takes_written (restores.reads arrangement)⟩

/-- A record is restored if its fields are, which may be read in any order. -/
theorem Record.decode_restores {α : Type} {record : Record α} {written : List (Written α)}
    {value : Json} {result : α} (fields : List.Forall₂ Field.Restores record.fields written)
    (differ : (record.fields.flatMap fun field => field.name :: field.also).Nodup)
    (commute : written.Pairwise Written.Commute)
    (whole : Written.putAll written record.blank = result)
    (members : value = .object (Written.members written)) :
    record.decode.Restores value result := by
  subst members
  constructor
  · refine .object fun member listed => ?_
    rw [Written.members_eq_map] at listed
    obtain ⟨part, isKept, rfl⟩ := List.mem_map.mp listed
    obtain ⟨field, -, restores⟩ := exists_of_forall₂ fields (List.mem_of_mem_filter isKept)
    exact restores.plain
  · intro arrangement
    have restores : record.Restores arrangement written result :=
      ⟨fields.imp fun _ _ restores => restores.takes arrangement _, differ, commute, whole⟩
    exact restores.reads

end AccessGraph
