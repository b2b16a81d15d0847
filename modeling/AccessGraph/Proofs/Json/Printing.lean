/-
This file proves that a plain value is read as it is written, character by character.
-/

import AccessGraph.Proofs.Json.Plain
import AccessGraph.Proofs.Json.Reading
import AccessGraph.Proofs.Json.Spelling

namespace AccessGraph

namespace Json

mutual

/-- What has been written before stays in front. -/
theorem toList_printAfter (written : String) : (value : Json) →
    (printAfter written value).toList = written.toList ++ (printAfter "" value).toList
  | .null => by simp [printAfter]
  | .boolean _ => by simp [printAfter]
  | .integer _ => by simp [printAfter]
  | .decimal _ => by simp [printAfter]
  | .text _ => by simp [printAfter]
  | .array elements => by
      rw [printAfter, printAfter, String.toList_push, String.toList_push,
        toList_printElements _ true elements, toList_printElements ("".push '[') true elements]
      simp
  | .object members => by
      rw [printAfter, printAfter, String.toList_push, String.toList_push,
        toList_printMembers _ true members, toList_printMembers ("".push '{') true members]
      simp

theorem toList_printElements (written : String) (first : Bool) : (elements : List Json) →
    (printElements written first elements).toList =
      written.toList ++ (printElements "" first elements).toList
  | [] => by simp [printElements]
  | element :: rest => by
      rw [printElements, printElements, toList_printElements _ false rest,
        toList_printElements (printAfter _ element) false rest, toList_printAfter _ element,
        toList_printAfter (if first = true then "" else "".push ',') element]
      cases first <;> simp

theorem toList_printMembers (written : String) (first : Bool) :
    (members : List (String × Json)) →
    (printMembers written first members).toList =
      written.toList ++ (printMembers "" first members).toList
  | [] => by simp [printMembers]
  | (key, value) :: rest => by
      rw [printMembers, printMembers, toList_printMembers _ false rest,
        toList_printMembers (printAfter _ value) false rest, toList_printAfter _ value,
        toList_printAfter (((if first = true then "" else "".push ',') ++ printText key).push ':')
          value]
      cases first <;> simp

end

theorem print_integer (value : Int) : print (.integer value) = toString value := by
  simp [print, printAfter]

theorem print_text (value : String) : print (.text value) = printText value := by
  simp [print, printAfter]

theorem toList_print_array (elements : List Json) :
    (print (.array elements)).toList =
      '[' :: ((printElements "" true elements).toList ++ [']']) := by
  rw [print, printAfter, String.toList_push, toList_printElements]
  rfl

theorem toList_print_object (members : List (String × Json)) :
    (print (.object members)).toList =
      '{' :: ((printMembers "" true members).toList ++ ['}']) := by
  rw [print, printAfter, String.toList_push, toList_printMembers]
  rfl

theorem toList_printElements_cons (element : Json) (rest : List Json) :
    (printElements "" true (element :: rest)).toList =
      (print element).toList ++ (printElements "" false rest).toList := by
  rw [printElements, toList_printElements]
  rfl

theorem toList_printElements_later (element : Json) (rest : List Json) :
    (printElements "" false (element :: rest)).toList =
      ',' :: ((print element).toList ++ (printElements "" false rest).toList) := by
  rw [printElements, toList_printElements, toList_printAfter]
  rfl

/-- A member is written as its key and its value. -/
def printMember (member : String × Json) : List Char :=
  (printText member.1).toList ++ ':' :: (print member.2).toList

theorem toList_printMembers_cons (member : String × Json) (rest : List (String × Json)) :
    (printMembers "" true (member :: rest)).toList =
      printMember member ++ (printMembers "" false rest).toList := by
  rw [printMembers, toList_printMembers, toList_printAfter]
  simp [printMember, print]

theorem toList_printMembers_later (member : String × Json) (rest : List (String × Json)) :
    (printMembers "" false (member :: rest)).toList =
      ',' :: (printMember member ++ (printMembers "" false rest).toList) := by
  rw [printMembers, toList_printMembers, toList_printAfter]
  simp [printMember, print]

end Json

namespace Document

open Json (Plain)

/-- One token is read and leads to the next state. -/
theorem run_next {state further : State} {text rest : List Char} {token : Token}
    (found : Token.next text = some (token, rest)) (step : state.step token = .inr further) :
    run state text = run further rest := by
  rw [run]
  split
  · rename_i nothing
    rw [found] at nothing
    cases nothing
  · rename_i same
    rw [found] at same
    cases same
    rw [step]

/-- A mark is a token by itself. -/
theorem run_mark {state further : State} {character : Char} {rest : List Char} (token : Token)
    (visible : Token.isSpace character = false) (mark : Token.start character rest = (token, rest))
    (step : state.step token = .inr further) : run state (character :: rest) = run further rest :=
  run_next ((Token.next_cons visible rest).trans (congrArg some mark)) step

/-- In this state a value is taken inside the frames, unless an array ends. -/
def TakesValue (state : State) (frames : List Frame) : Prop :=
  ∀ token, token ≠ .closeArray → state.step token = takeValue frames token

theorem takesValue_atValue (frames : List Frame) : TakesValue (.atValue frames) frames :=
  fun _ _ => rfl

theorem takesValue_atElement (frames : List Frame) :
    TakesValue (.atElement frames) (.elements [] :: frames) := by
  intro token noEnd
  cases token with
  | closeArray => exact absurd rfl noEnd
  | _ => rfl

/-- Wherever a value is wanted, the text of this one is read as the value. -/
def ReadsBack (value : Json) : Prop :=
  ∀ {state : State} {frames : List Frame} {rest : List Char}, TakesValue state frames →
    Token.Ends rest →
      run state (value.print.toList ++ rest) = run (close (ofJson value) frames) rest

/-- A token that makes up a value is read as this value. -/
theorem run_leaf {state : State} {frames : List Frame} {text rest : List Char} {token : Token}
    {value : Json} (takes : TakesValue state frames)
    (found : Token.next text = some (token, rest)) (noEnd : token ≠ .closeArray)
    (taken : takeValue frames token = .inr (close (ofJson value) frames)) :
    run state text = run (close (ofJson value) frames) rest :=
  run_next found ((takes token noEnd).trans taken)

theorem ends_printElements (elements : List Json) (rest : List Char) :
    Token.Ends ((Json.printElements "" false elements).toList ++ ']' :: rest) := by
  cases elements with
  | nil => exact .inr (.inl rfl)
  | cons element elements =>
      rw [Json.toList_printElements_later]
      exact .inl rfl

theorem ends_printMembers (members : List (String × Json)) (rest : List Char) :
    Token.Ends ((Json.printMembers "" false members).toList ++ '}' :: rest) := by
  cases members with
  | nil => exact .inr (.inr rfl)
  | cons member members =>
      rw [Json.toList_printMembers_later]
      exact .inl rfl

/-- Behind an element the others follow, up to the end of the array. -/
theorem run_printElements {elements : List Json} (each : ∀ element ∈ elements, ReadsBack element)
    (found : List Document) (frames : List Frame) (rest : List Char) :
    run (.atNextElement found frames)
        ((Json.printElements "" false elements).toList ++ ']' :: rest) =
      run (close (.array (found.reverse ++ ofElements elements) none) frames) rest := by
  -- What has been found so far is kept in the state, and grows with every element.
  induction elements generalizing found with
  | nil =>
      rw [ofElements, List.append_nil]
      exact run_mark .closeArray rfl rfl rfl
  | cons element elements inductionHypothesis =>
      obtain ⟨first, later⟩ := List.forall_mem_cons.mp each
      rw [Json.toList_printElements_later, List.cons_append, List.append_assoc]
      calc run (.atNextElement found frames) _
          = run (.atValue (.elements found :: frames)) _ := run_mark .comma rfl rfl rfl
        _ = run (.atNextElement (ofJson element :: found) frames) _ :=
            first (takesValue_atValue _) (ends_printElements elements rest)
        _ = _ := by
            rw [inductionHypothesis later, List.reverse_cons, List.append_assoc, ofElements]
            rfl

/-- Where a key is wanted, a member is read as its key and its value. -/
theorem run_printMember {member : String × Json} (value : ReadsBack member.2) (first : Bool)
    (found : List (Leaf String × Document)) (frames : List Frame) {rest : List Char}
    (ends : Token.Ends rest) :
    run (.atKey first found frames) (Json.printMember member ++ rest) =
      run (.atNextMember ((.ok member.1, ofJson member.2) :: found) frames) rest := by
  have key : State.step (.text (.ok member.1)) (.atKey first found frames) =
      .inr (.atColon found (.ok member.1) frames) := by
    cases first <;> rfl
  rw [Json.printMember, List.append_assoc, List.cons_append]
  calc run (.atKey first found frames) _
      = run (.atColon found (.ok member.1) frames) _ := run_next (Token.next_printText _) key
    _ = run (.atValue (.members found (.ok member.1) :: frames)) _ :=
        run_mark .colon rfl rfl rfl
    _ = run (.atNextMember ((.ok member.1, ofJson member.2) :: found) frames) rest :=
        value (takesValue_atValue _) ends

/-- Behind a member the others follow, up to the end of the object. -/
theorem run_printMembers {members : List (String × Json)}
    (each : ∀ member ∈ members, ReadsBack member.2) (found : List (Leaf String × Document))
    (frames : List Frame) (rest : List Char) :
    run (.atNextMember found frames) ((Json.printMembers "" false members).toList ++ '}' :: rest) =
      run (close (.object (found.reverse ++ ofMembers members) false none) frames) rest := by
  induction members generalizing found with
  | nil =>
      rw [ofMembers, List.append_nil]
      exact run_mark .closeObject rfl rfl rfl
  | cons member members inductionHypothesis =>
      obtain ⟨first, later⟩ := List.forall_mem_cons.mp each
      rw [Json.toList_printMembers_later, List.cons_append, List.append_assoc]
      calc run (.atNextMember found frames) _
          = run (.atKey false found frames) _ := run_mark .comma rfl rfl rfl
        _ = run (.atNextMember ((.ok member.1, ofJson member.2) :: found) frames) _ :=
            run_printMember first false found frames (ends_printMembers members rest)
        _ = _ := by
            rw [inductionHypothesis later, List.reverse_cons, List.append_assoc, ofMembers]
            rfl

theorem readsBack_array {elements : List Json} (each : ∀ element ∈ elements, ReadsBack element) :
    ReadsBack (.array elements) := by
  intro state frames rest takes ends
  rw [Json.toList_print_array, List.cons_append, List.append_assoc]
  rw [run_mark .openArray rfl rfl (takes .openArray nofun)]
  cases elements with
  | nil => exact run_mark .closeArray rfl rfl rfl
  | cons element elements =>
      obtain ⟨first, later⟩ := List.forall_mem_cons.mp each
      rw [Json.toList_printElements_cons, List.append_assoc]
      calc run (.atElement frames) _
          = run (.atNextElement [ofJson element] frames) _ :=
            first (takesValue_atElement frames) (ends_printElements elements rest)
        _ = _ := run_printElements later _ frames rest

theorem readsBack_object {members : List (String × Json)}
    (each : ∀ member ∈ members, ReadsBack member.2) : ReadsBack (.object members) := by
  intro state frames rest takes ends
  rw [Json.toList_print_object, List.cons_append, List.append_assoc]
  rw [run_mark .openObject rfl rfl (takes .openObject nofun)]
  cases members with
  | nil => exact run_mark .closeObject rfl rfl rfl
  | cons member members =>
      obtain ⟨first, later⟩ := List.forall_mem_cons.mp each
      rw [Json.toList_printMembers_cons, List.append_assoc]
      calc run (.atKey true [] frames) _
          = run (.atNextMember [(.ok member.1, ofJson member.2)] frames) _ :=
            run_printMember first true [] frames (ends_printMembers members rest)
        _ = _ := run_printMembers later _ frames rest

/-- A plain value is read back wherever it stands. -/
theorem readsBack {value : Json} (plain : Plain value) : ReadsBack value := by
  -- Only an integer depends on what comes behind it, as all others have an end of their own.
  induction plain with
  | null =>
      intro state frames rest takes ends
      exact run_leaf takes (Token.next_null rest) nofun rfl
  | boolean value =>
      intro state frames rest takes ends
      exact run_leaf takes (Token.next_boolean value rest) nofun rfl
  | integer least greatest =>
      intro state frames rest takes ends
      rw [Json.print_integer]
      exact run_leaf takes (Token.next_integer least greatest ends) nofun rfl
  | text value =>
      intro state frames rest takes ends
      rw [Json.print_text]
      exact run_leaf takes (Token.next_printText value) nofun rfl
  | array each inductionHypothesis => exact readsBack_array inductionHypothesis
  | object each inductionHypothesis => exact readsBack_object inductionHypothesis

/-- The text of a plain value is read as the value, and nothing comes behind it. -/
theorem read_print {value : Json} (plain : Plain value) :
    read value.print = ⟨ofJson value, none⟩ := by
  have whole : run (.atValue []) (value.print.toList ++ []) = run (close (ofJson value) []) [] :=
    readsBack plain (takesValue_atValue []) trivial
  rw [List.append_nil] at whole
  rw [read, whole, run]
  rfl

end Document

namespace Decoder

open Json (Plain Arrangement)

/-- What is read of a plain value is also read of its text. -/
theorem readText_print {α : Type} {arrangement : Arrangement} {decoder : Decoder α} {value : Json}
    {result : α} (reads : decoder.Reads arrangement value result)
    (plain : Plain (arrangement.apply value)) :
    readText decoder (arrangement.apply value).print = .ok result := by
  rw [readText, Document.read_print plain]
  simp only [reads .text, bind, Except.bind, complete]

end Decoder

end AccessGraph
