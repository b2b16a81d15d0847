/-
This file says when a record that was written is read again field by field, in whatever order the
fields stand and whatever stands between them.
-/

import AccessGraph.Proofs.Json.Reading
import AccessGraph.Proofs.Permutation
import Mathlib.Data.List.Pairwise

namespace AccessGraph

open Json (Arrangement)

/-- A part of what is written of a record: the name of a field, whether it is written at all, its
value, and what becomes of the record when it is read. -/
structure Written (α : Type) where
  name : String
  kept : Bool
  value : Json
  put : α → α

namespace Written

variable {α : Type}

/-- The members of the object that is written. -/
def members (written : List (Written α)) : List (String × Json) :=
  written.flatMap fun part => Json.member part.kept part.name part.value

theorem members_eq_map (written : List (Written α)) :
    members written = (written.filter (·.kept)).map fun part => (part.name, part.value) := by
  induction written with
  | nil => rfl
  | cons part rest inductionHypothesis =>
      rw [members, List.flatMap_cons, ← members, inductionHypothesis]
      cases kept : part.kept <;> simp [Json.member, kept]

theorem mem_members {written : List (Written α)} {part : Written α} (listed : part ∈ written)
    (kept : part.kept = true) : (part.name, part.value) ∈ members written := by
  rw [members_eq_map]
  exact List.mem_map_of_mem (List.mem_filter.mpr ⟨listed, kept⟩)

/-- The members of the object once it is arranged. -/
def arranged (arrangement : Arrangement) (written : List (Written α)) : List (String × Json) :=
  Json.mapValues arrangement.apply (members written)

theorem arranged_eq_map (arrangement : Arrangement) (written : List (Written α)) :
    arranged arrangement written =
      (written.filter (·.kept)).map fun part => (part.name, arrangement.apply part.value) := by
  rw [arranged, members_eq_map, Json.mapValues, List.map_map]
  rfl

/-- Every name is given once if the names of all parts differ. -/
theorem members_nodup {written : List (Written α)} (differ : (written.map (·.name)).Nodup) :
    ((members written).map (·.1)).Nodup := by
  rw [members_eq_map, List.map_map]
  exact differ.sublist (List.filter_sublist.map _)

/-- The order in which parts are read does not matter for the record. -/
def Commute (first second : Written α) : Prop :=
  ∀ record, second.put (first.put record) = first.put (second.put record)

instance : Std.Symm (@Commute α) where
  symm _ _ commute record := (commute record).symm

theorem commute_self (part : Written α) : part.Commute part :=
  fun _ => rfl

/-- The record that all parts are read into. -/
def putAll (written : List (Written α)) (record : α) : α :=
  written.foldl (fun record part => part.put record) record

theorem putAll_eq_of_perm {first second : List (Written α)} (perm : first.Perm second)
    (commute : ∀ part ∈ first, ∀ other ∈ first, part.Commute other) (record : α) :
    putAll first record = putAll second record := by
  refine perm.foldl_eq' ?_ record
  intro part member other alsoMember
  exact commute part member other alsoMember

theorem putAll_eq_self {parts : List (Written α)} {record : α}
    (same : ∀ part ∈ parts, part.put record = record) : putAll parts record = record := by
  induction parts with
  | nil => rfl
  | cons part rest inductionHypothesis =>
      obtain ⟨first, later⟩ := List.forall_mem_cons.mp same
      rw [putAll, List.foldl_cons, first]
      exact inductionHypothesis later

/-- What is left out may be put into the blank record if it changes nothing there. -/
theorem putAll_filter_kept {written : List (Written α)} {blank : α}
    (commute : ∀ part ∈ written, ∀ other ∈ written, part.Commute other)
    (left : ∀ part ∈ written, part.kept = false → part.put blank = blank) :
    putAll (written.filter (·.kept)) blank = putAll written blank := by
  have nothing : putAll (written.filter (!·.kept)) blank = blank := by
    refine putAll_eq_self fun part member => ?_
    obtain ⟨listed, dropped⟩ := List.mem_filter.mp member
    exact left part listed (by simpa using dropped)
  have split : (written.filter (!·.kept) ++ written.filter (·.kept)).Perm written :=
    List.perm_append_comm.trans (List.filter_append_perm (·.kept) written)
  calc putAll (written.filter (·.kept)) blank
      = putAll (written.filter (·.kept)) (putAll (written.filter (!·.kept)) blank) := by
        rw [nothing]
    _ = putAll (written.filter (!·.kept) ++ written.filter (·.kept)) blank :=
        (List.foldl_append ..).symm
    _ = putAll written blank := by
        refine putAll_eq_of_perm split ?_ blank
        intro part member other alsoMember
        exact commute part (split.mem_iff.mp member) other (split.mem_iff.mp alsoMember)

end Written

namespace Field

variable {α β : Type} {arrangement : Arrangement} {blank : α} {name : String}
  {decoder : Decoder β} {put : β → α → α} {value : Json} {result : β}

/-- A field reads the part that is written of it. What has to be there is written, and what is left
out is as in the blank record. -/
structure Takes (arrangement : Arrangement) (blank : α) (field : Field α) (part : Written α) :
    Prop where
  name : field.name = part.name
  required : field.required = true → part.kept = true
  reads : part.kept = true → ∀ origin record,
    field.read origin (.ofJson (arrangement.apply part.value)) record = .ok (part.put record)
  left : part.kept = false → part.put blank = blank

theorem of_read {required : Bool} {also : List String}
    (reads : decoder.Reads arrangement value result) (origin : Origin) (record : α) :
    (of required name also decoder put).read origin (.ofJson (arrangement.apply value)) record =
      .ok (put result record) := by
  simp only [of, reads origin, bind, Except.bind]

/-- A field of any kind takes what is always written of it. -/
theorem takes_written {required : Bool} {also : List String}
    (reads : decoder.Reads arrangement value result) :
    Takes arrangement blank (.of required name also decoder put)
      ⟨name, true, value, put result⟩ where
  name := rfl
  required _ := rfl
  reads _ := of_read reads
  left := nofun

theorem takes_optional {kept : Bool} (reads : kept = true → decoder.Reads arrangement value result)
    (left : kept = false → put result blank = blank) :
    Takes arrangement blank (.optional name decoder put) ⟨name, kept, value, put result⟩ where
  name := rfl
  required := nofun
  reads written := of_read (reads written)
  left := left

/-- A text is left out if it is empty. -/
theorem takes_text {put : String → α → α} (empty : put "" blank = blank) (content : String) :
    Takes arrangement blank (.optional name Decoder.text put)
      ⟨name, !content.isEmpty, .text content, put content⟩ := by
  refine takes_optional (fun _ => Decoder.reads_text content) fun dropped => ?_
  have nothing : content = "" := by simpa using dropped
  rw [nothing, empty]

/-- A flag is left out if it is not set. -/
theorem takes_flag {put : Bool → α → α} (unset : put false blank = blank) (flag : Bool) :
    Takes arrangement blank (.optional name Decoder.boolean put)
      ⟨name, flag, .boolean true, put flag⟩ := by
  refine takes_optional (fun set => ?_) fun dropped => ?_
  · rw [set]
    exact Decoder.reads_boolean true
  · rw [dropped, unset]

/-- A list is left out if it is empty. -/
theorem takes_list {put : List β → α → α} {encode : β → Json} {elements : List β}
    (empty : put [] blank = blank)
    (reads : ∀ element ∈ elements, decoder.Reads arrangement (encode element) element) :
    Takes arrangement blank (.optional name (Decoder.list decoder) put)
      ⟨name, !elements.isEmpty, .list encode elements, put elements⟩ := by
  refine takes_optional (fun _ => Decoder.reads_list reads) fun dropped => ?_
  have nothing : elements = [] := by simpa using dropped
  rw [nothing, empty]

theorem takes_texts {put : List String → α → α} (empty : put [] blank = blank)
    (elements : List String) :
    Takes arrangement blank (.optional name (Decoder.list Decoder.text) put)
      ⟨name, !elements.isEmpty, Json.texts elements, put elements⟩ :=
  takes_list empty fun element _ => Decoder.reads_text element

/-- Nothing is written of what is not known. -/
theorem takes_option {put : Option β → α → α} {encode : β → Json}
    (unknown : put none blank = blank)
    (reads : ∀ content, decoder.Reads arrangement (encode content) content)
    (refuses : ∀ origin content, decoder origin (.literal (.ok .null)) ≠ .ok content)
    (content : Option β) :
    Takes arrangement blank (.optional name (Decoder.option decoder) put)
      ⟨name, content.isSome, Json.optional encode content, put content⟩ := by
  cases content with
  | none => exact takes_optional nofun fun _ => unknown
  | some content =>
      refine takes_optional (fun _ => ?_) nofun
      exact Decoder.reads_option (reads content) fun origin => refuses origin content

/-- Where the names of all fields differ, a name leads to its field. -/
theorem find?_goesBy {fields : List (Field α)}
    (differ : (fields.flatMap fun field => field.name :: field.also).Nodup) {field : Field α}
    (listed : field ∈ fields) : fields.find? (·.goesBy field.name) = some field := by
  induction fields with
  | nil => cases listed
  | cons first rest inductionHypothesis =>
      rw [List.flatMap_cons, List.nodup_append] at differ
      obtain ⟨-, restDiffer, apart⟩ := differ
      rcases List.mem_cons.mp listed with rfl | later
      · rw [List.find?_cons_of_pos]
        simp [goesBy]
      · have other : first.goesBy field.name = false := by
          have absent : field.name ∉ first.name :: first.also := by
            intro present
            have listed : field.name ∈ rest.flatMap fun field => field.name :: field.also :=
              List.mem_flatMap.mpr ⟨field, later, List.mem_cons_self⟩
            exact apart _ present _ listed rfl
          rw [List.mem_cons, not_or] at absent
          simp [goesBy, absent.2, Ne.symm absent.1]
        rw [List.find?_cons_of_neg (by simp [other])]
        exact inductionHypothesis restDiffer later

end Field

namespace Record

variable {α : Type}

/-- A member that has the name of a field. -/
def owns (record : Record α) (member : String × Json) : Bool :=
  record.fields.any (·.goesBy member.1)

/-- Members that are no fields are passed over. -/
theorem takeMembers_filter (record : Record α) (origin : Origin) (seen : List String) (value : α)
    (members : List (String × Json)) :
    takeMembers record.fields origin seen value (Document.ofMembers members) =
      takeMembers record.fields origin seen value
        (Document.ofMembers (members.filter record.owns)) := by
  induction members generalizing seen value with
  | nil => rfl
  | cons member rest inductionHypothesis =>
      obtain ⟨key, content⟩ := member
      cases known : record.owns (key, content) with
      | true =>
          rw [List.filter_cons_of_pos known, Document.ofMembers, Document.ofMembers]
          simp only [takeMembers, Leaf.ok, bind, Except.bind]
          split
          · simp only [inductionHypothesis]
          · split
            · rfl
            · split
              · rfl
              · exact inductionHypothesis _ _
      | false =>
          have absent : record.fields.find? (·.goesBy key) = none := by
            rw [List.find?_eq_none]
            intro field listed named
            have found : record.owns (key, content) = true :=
              List.any_eq_true.mpr ⟨field, listed, named⟩
            rw [known] at found
            cases found
          rw [List.filter_cons_of_neg (by simp [known]), Document.ofMembers]
          simp only [takeMembers, Leaf.ok, bind, Except.bind, absent, Decoder.skip,
            Document.broken_ofJson]
          exact inductionHypothesis _ _

theorem checkNeeded_eq_ok {fields : List (Field α)} {seen : List String}
    (given : ∀ field ∈ fields, field.required = true → field.name ∈ seen) :
    checkNeeded fields seen = .ok () := by
  have none : (fields.find? fun field => field.required && !seen.contains field.name) = none := by
    rw [List.find?_eq_none]
    intro field listed missing
    rw [Bool.and_eq_true, Bool.not_eq_true', List.contains_eq_mem, decide_eq_false_iff_not]
      at missing
    exact missing.2 (given field listed missing.1)
  rw [checkNeeded, none]

/-- A record is restored from what is written of it: every field takes its part, the parts can be
read in any order, and all parts make up the record. -/
structure Restores (arrangement : Arrangement) (record : Record α) (written : List (Written α))
    (result : α) : Prop where
  takes : List.Forall₂ (Field.Takes arrangement record.blank) record.fields written
  differ : (record.fields.flatMap fun field => field.name :: field.also).Nodup
  commute : written.Pairwise Written.Commute
  whole : Written.putAll written record.blank = result

namespace Restores

variable {arrangement : Arrangement} {record : Record α} {written : List (Written α)} {result : α}
  (restores : record.Restores arrangement written result)

include restores

theorem names_eq : record.fields.map (·.name) = written.map (·.name) := by
  rw [← List.forall₂_eq_eq_eq, List.forall₂_map_left_iff, List.forall₂_map_right_iff]
  exact restores.takes.imp fun field part takes => takes.name

theorem names_nodup : (written.map (·.name)).Nodup := by
  rw [← restores.names_eq]
  have apart := (List.nodup_flatMap.mp restores.differ).2
  refine List.pairwise_map.mpr (apart.imp ?_)
  intro field other disjoint same
  exact disjoint List.mem_cons_self (same ▸ List.mem_cons_self)

theorem commutes : ∀ part ∈ written, ∀ other ∈ written, part.Commute other := by
  intro part listed other alsoListed
  exact restores.commute.forall_of_forall (fun part _ => part.commute_self) listed alsoListed

/-- Parts are read one after the other, each by its field. -/
theorem takeMembers_parts (origin : Origin) {parts : List (Written α)}
    (kept : ∀ part ∈ parts, part ∈ written ∧ part.kept = true)
    (differ : (parts.map (·.name)).Nodup) {seen : List String}
    (fresh : ∀ part ∈ parts, part.name ∉ seen) (value : α) :
    takeMembers record.fields origin seen value (Document.ofMembers
        (parts.map fun part => (part.name, arrangement.apply part.value))) =
      .ok ((parts.map (·.name)).reverse ++ seen, Written.putAll parts value) := by
  induction parts generalizing seen value with
  | nil => rfl
  | cons part rest inductionHypothesis =>
      obtain ⟨⟨listed, isKept⟩, restKept⟩ := List.forall_mem_cons.mp kept
      obtain ⟨partFresh, restFresh⟩ := List.forall_mem_cons.mp fresh
      obtain ⟨partOnce, restDiffer⟩ := List.nodup_cons.mp differ
      obtain ⟨field, isField, takes⟩ := exists_of_forall₂ restores.takes listed
      have found := Field.find?_goesBy restores.differ isField
      rw [takes.name] at found
      have new : seen.contains field.name = false := by
        rw [takes.name, List.contains_eq_mem]
        exact decide_eq_false partFresh
      have stillFresh : ∀ later ∈ rest, later.name ∉ field.name :: seen := by
        intro later isLater
        rw [List.mem_cons, not_or, takes.name]
        refine ⟨fun same => partOnce ?_, restFresh later isLater⟩
        exact List.mem_map.mpr ⟨later, isLater, same⟩
      have restRead := inductionHypothesis restKept restDiffer stillFresh (part.put value)
      rw [List.map_cons, Document.ofMembers, takeMembers]
      simp only [Leaf.ok, bind, Except.bind, found, new, takes.reads isKept]
      rw [restRead, takes.name]
      simp [Written.putAll]

/-- The parts that are written make up the record, in whatever order they are read. -/
theorem putAll_eq {parts : List (Written α)} (perm : parts.Perm (written.filter (·.kept))) :
    Written.putAll parts record.blank = result := by
  have listed : ∀ part ∈ parts, part ∈ written := fun part member =>
    List.mem_of_mem_filter (perm.mem_iff.mp member)
  have left : ∀ part ∈ written, part.kept = false → part.put record.blank = record.blank := by
    intro part member
    obtain ⟨field, -, takes⟩ := exists_of_forall₂ restores.takes member
    exact takes.left
  calc Written.putAll parts record.blank
      = Written.putAll (written.filter (·.kept)) record.blank :=
        Written.putAll_eq_of_perm perm (fun part member other alsoMember =>
          restores.commutes part (listed part member) other (listed other alsoMember)) _
    _ = Written.putAll written record.blank :=
        Written.putAll_filter_kept restores.commutes left
    _ = result := restores.whole

/-- Every field that has to be there is written. -/
theorem needed_mem {parts : List (Written α)} (perm : parts.Perm (written.filter (·.kept)))
    {field : Field α} (listed : field ∈ record.fields) (required : field.required = true) :
    field.name ∈ parts.map (·.name) := by
  obtain ⟨part, isWritten, takes⟩ := exists_of_forall₂ restores.takes.flip listed
  have isPart : part ∈ parts :=
    perm.mem_iff.mpr (List.mem_filter.mpr ⟨isWritten, takes.required required⟩)
  exact List.mem_map.mpr ⟨part, isPart, takes.name.symm⟩

/-- The fields may come in any order, and other members between them. -/
theorem takeMembers_of_perm (origin : Origin) {shown : List (String × Json)}
    (perm : (shown.filter record.owns).Perm (Written.arranged arrangement written)) :
    ∃ seen, takeMembers record.fields origin [] record.blank (Document.ofMembers shown) =
      .ok (seen, result) ∧ checkNeeded record.fields seen = .ok () := by
  rw [Written.arranged_eq_map] at perm
  obtain ⟨parts, partsPerm, owned⟩ := exists_of_perm_map perm
  have kept : ∀ part ∈ parts, part ∈ written ∧ part.kept = true := fun part listed =>
    List.mem_filter.mp (partsPerm.mem_iff.mp listed)
  have differ : (parts.map (·.name)).Nodup := by
    rw [(partsPerm.map _).nodup_iff]
    exact restores.names_nodup.sublist (List.filter_sublist.map _)
  refine ⟨(parts.map (·.name)).reverse ++ [], ?_, checkNeeded_eq_ok ?_⟩
  · rw [takeMembers_filter, owned, restores.takeMembers_parts origin kept differ (by simp),
      restores.putAll_eq partsPerm]
  · intro field listed required
    rw [List.append_nil, List.mem_reverse]
    exact restores.needed_mem partsPerm listed required

/-- All that is written of the record has the name of a field. -/
theorem owns_of_mem {shown : List (String × Json)}
    (perm : shown.Perm (Written.arranged arrangement written)) {member : String × Json}
    (listed : member ∈ shown) : record.owns member = true := by
  have arranged := perm.mem_iff.mp listed
  rw [Written.arranged_eq_map] at arranged
  obtain ⟨part, isKept, rfl⟩ := List.mem_map.mp arranged
  obtain ⟨field, isField, takes⟩ :=
    exists_of_forall₂ restores.takes (List.mem_of_mem_filter isKept)
  refine List.any_eq_true.mpr ⟨field, isField, ?_⟩
  simp [Field.goesBy, takes.name]

theorem decode_eq_ok (origin : Origin) {shown : List (String × Json)}
    (perm : shown.Perm (Written.arranged arrangement written)) :
    record.decode origin (.object (Document.ofMembers shown) false none) = .ok result := by
  have owned : (shown.filter record.owns).Perm (Written.arranged arrangement written) := by
    rw [List.filter_eq_self.mpr fun member => restores.owns_of_mem perm]
    exact perm
  obtain ⟨seen, taken, checked⟩ := restores.takeMembers_of_perm origin owned
  simp only [decode, ofMembers, taken, Decoder.complete, checked, bind, Except.bind]

/-- The object that is written of a record is read as the record. -/
theorem reads : record.decode.Reads arrangement (.object (Written.members written)) result := by
  intro origin
  obtain ⟨shown, shows, perm⟩ :=
    arrangement.object _ (Written.members_nodup restores.names_nodup)
  rw [shows, Document.ofJson]
  exact restores.decode_eq_ok origin perm

end Restores

end Record

end AccessGraph
