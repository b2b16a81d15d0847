/-
This file takes texts apart that were joined: at the last place of a separator, and at the ends
where blank characters stand.
-/

import AccessGraph.Text.Blank
import Mathlib.Data.List.DropRight

namespace AccessGraph.Text

theorem takeWhile_append_separator {separator : Char} {characters : List Char}
    (absent : separator ∉ characters) (rest : List Char) :
    (characters ++ separator :: rest).takeWhile (· ≠ separator) = characters := by
  have others : ∀ character ∈ characters, (decide (character ≠ separator)) = true := by
    intro character member
    exact decide_eq_true fun same => absent (same ▸ member)
  rw [List.takeWhile_append_of_pos others]
  simp

/-- What stands behind the last separator holds none, and so both parts are known. -/
theorem eq_of_append_separator_eq {separator : Char} {first second others rest : List Char}
    (last : separator ∉ second) (alsoLast : separator ∉ rest)
    (same : first ++ separator :: second = others ++ separator :: rest) :
    first = others ∧ second = rest := by
  have mirrored : second.reverse ++ separator :: first.reverse =
      rest.reverse ++ separator :: others.reverse := by
    simpa using congrArg List.reverse same
  have tails : second.reverse = rest.reverse := by
    have taken := congrArg (List.takeWhile (· ≠ separator)) mirrored
    rwa [takeWhile_append_separator (by simpa using last),
      takeWhile_append_separator (by simpa using alsoLast)] at taken
  rw [tails] at mirrored
  have heads := List.cons_injective (List.append_cancel_left mirrored)
  exact ⟨List.reverse_injective heads, List.reverse_injective tails⟩

/-- Texts joined by a separator are known when the later ones are free of it. -/
theorem eq_of_joined_eq {separator : Char} {mark first second others rest : String}
    (single : mark.toList = [separator]) (last : separator ∉ second.toList)
    (alsoLast : separator ∉ rest.toList)
    (same : first ++ mark ++ second = others ++ mark ++ rest) : first = others ∧ second = rest := by
  have characters := congrArg String.toList same
  simp only [String.toList_append, single, List.append_assoc, List.singleton_append] at characters
  obtain ⟨heads, tails⟩ := eq_of_append_separator_eq last alsoLast characters
  exact ⟨String.toList_injective heads, String.toList_injective tails⟩

/-- Texts joined by a separator are known when the earlier ones are free of it. -/
theorem eq_of_first_joined_eq {separator : Char} {mark first second others rest : String}
    (single : mark.toList = [separator]) (start : separator ∉ first.toList)
    (alsoStart : separator ∉ others.toList)
    (same : first ++ mark ++ second = others ++ mark ++ rest) : first = others ∧ second = rest := by
  have characters := congrArg String.toList same
  simp only [String.toList_append, single, List.append_assoc, List.singleton_append] at characters
  have heads := congrArg (List.takeWhile (· ≠ separator)) characters
  rw [takeWhile_append_separator start, takeWhile_append_separator alsoStart] at heads
  rw [heads] at characters
  have tails := List.cons_injective (List.append_cancel_left characters)
  exact ⟨String.toList_injective heads, String.toList_injective tails⟩

/-- A part that a list starts with starts as the list does. -/
theorem dropWhile_eq_self_of_prefix {predicate : Char → Bool} {part characters : List Char}
    (start : part <+: characters) (kept : characters.dropWhile predicate = characters) :
    part.dropWhile predicate = part := by
  rw [List.dropWhile_eq_self_iff] at kept ⊢
  intro nonempty
  have longer : 0 < characters.length := Nat.lt_of_lt_of_le nonempty start.length_le
  rw [start.getElem nonempty]
  exact kept longer

/-- Nothing is left to trim of a trimmed text. -/
theorem trim_trim (text : String) : trim (trim text) = trim text := by
  have left : (trimCharacters text.toList).dropWhile isBlank = trimCharacters text.toList :=
    dropWhile_eq_self_of_prefix (List.rdropWhile_prefix isBlank _)
      (List.dropWhile_idempotent isBlank _)
  have both : trimCharacters (trimCharacters text.toList) = trimCharacters text.toList := by
    change ((trimCharacters text.toList).dropWhile isBlank).rdropWhile isBlank = _
    rw [left]
    exact List.rdropWhile_idempotent isBlank _
  rw [trim, trim, String.toList_ofList, both]

end AccessGraph.Text
