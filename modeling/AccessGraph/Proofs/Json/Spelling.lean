/-
This file proves that single tokens are read as they are written: marks, words, texts and integers.
-/

import AccessGraph.Json.Token
import AccessGraph.Json.Value
import Mathlib.Tactic.IntervalCases

namespace AccessGraph

namespace Token

/-- The text behind a number goes on with none of its characters if a value has been written as a
whole. -/
def Ends : List Char → Prop
  | [] => True
  | character :: _ => character = ',' ∨ character = ']' ∨ character = '}'

theorem Ends.takeWhile_isDigit {rest : List Char} (ends : Ends rest) :
    rest.takeWhile Char.isDigit = [] := by
  cases rest with
  | nil => rfl
  | cons character rest => rcases ends with rfl | rfl | rfl <;> rfl

theorem Ends.dropWhile_isDigit {rest : List Char} (ends : Ends rest) :
    rest.dropWhile Char.isDigit = rest := by
  cases rest with
  | nil => rfl
  | cons character rest => rcases ends with rfl | rfl | rfl <;> rfl

/-- Neither a fraction nor an exponent follows. -/
theorem Ends.readFraction {rest : List Char} (ends : Ends rest) (negative : Bool)
    (whole : List Char) :
    Token.readFraction negative whole rest =
      (⟨numberValue negative whole [] none, none⟩, rest) := by
  cases rest with
  | nil => rfl
  | cons character rest => rcases ends with rfl | rfl | rfl <;> rfl

/-- Digits that make up a number which fits a word are all collected. -/
theorem foldl_collectWhole {digits : List Char} {collected : Nat}
    (fits : Nat.ofDigitChars 10 digits collected ≤ greatestWord) :
    digits.foldl collectWhole (collected, 0) = (Nat.ofDigitChars 10 digits collected, 0) := by
  induction digits generalizing collected with
  | nil => rfl
  | cons digit digits inductionHypothesis =>
      have value : collected * 10 + digitValue digit =
          10 * collected + (digit.toNat - '0'.toNat) := by
        rw [Nat.mul_comm, digitValue]
      rw [Nat.ofDigitChars_cons] at fits
      have below : 10 * collected + (digit.toNat - '0'.toNat) ≤
          Nat.ofDigitChars 10 digits (10 * collected + (digit.toNat - '0'.toNat)) := by
        rw [Nat.ofDigitChars_eq_ofDigitChars_zero]
        exact Nat.le_trans (Nat.le_mul_of_pos_left _ (Nat.pow_pos (by decide)))
          (Nat.le_add_right _ _)
      rw [List.foldl_cons, Nat.ofDigitChars_cons, ← inductionHypothesis fits, collectWhole, value,
        if_pos ⟨rfl, Nat.le_trans below fits⟩]

theorem foldl_collectWhole_toDigits {number : Nat} (fits : number ≤ greatestWord) :
    (Nat.toDigits 10 number).foldl collectWhole (0, 0) = (number, 0) := by
  have whole : Nat.ofDigitChars 10 (Nat.toDigits 10 number) 0 = number :=
    Nat.ofDigitChars_ten_toDigits
  rw [foldl_collectWhole (by rw [whole]; exact fits), whole]

/-- A positive number does not start with a zero. -/
theorem exists_toDigits_eq_cons {number : Nat} (positive : 0 < number) :
    ∃ first rest, Nat.toDigits 10 number = first :: rest ∧ first ≠ '0' := by
  induction number using Nat.strongRecOn with
  | ind number inductionHypothesis =>
      -- The last digit comes off the end, so a longer number starts as the rest of it does.
      rw [Nat.toDigits_eq_if (by decide)]
      split
      · exact ⟨_, [], rfl, by rw [Ne, Nat.digitChar_eq_zero]; omega⟩
      · obtain ⟨first, rest, written, different⟩ :=
          inductionHypothesis (number / 10) (by omega) (by omega)
        exact ⟨first, rest ++ [(number % 10).digitChar], by rw [written, List.cons_append],
          different⟩

theorem isDigit_of_mem_toDigits {number : Nat} :
    ∀ digit ∈ Nat.toDigits 10 number, digit.isDigit = true :=
  fun _ listed => Nat.isDigit_of_mem_toDigits (by decide) (by decide) listed

/-- The digits of a number are read up to their end, whether the first of them has been read before
or not. -/
theorem readNumber_toDigits (negative : Bool) {number : Nat} {first later rest : List Char}
    (written : first ++ later = Nat.toDigits 10 number) (ends : Ends rest) :
    readNumber negative first (later ++ rest) =
      (⟨numberValue negative (Nat.toDigits 10 number) [] none, none⟩, rest) := by
  have digits : ∀ digit ∈ later, digit.isDigit = true := fun digit listed =>
    isDigit_of_mem_toDigits digit (written ▸ List.mem_append_right first listed)
  have whole : first ++ (later ++ rest).takeWhile Char.isDigit = Nat.toDigits 10 number := by
    rw [List.takeWhile_append_of_pos digits, ends.takeWhile_isDigit, List.append_nil, written]
  have behind : (later ++ rest).dropWhile Char.isDigit = rest := by
    rw [List.dropWhile_append_of_pos digits, ends.dropWhile_isDigit]
  unfold readNumber
  dsimp only
  rw [whole, behind]
  split
  · rename_i nothing
    exact absurd nothing Nat.toDigits_ne_nil
  · rename_i second more zero
    -- A zero with digits behind it would be refused.
    rcases Nat.eq_zero_or_pos number with rfl | positive
    · rw [Nat.toDigits_zero] at zero
      cases zero
    · obtain ⟨digit, others, same, different⟩ := exists_toDigits_eq_cons positive
      rw [same] at zero
      exact absurd (List.cons.inj zero).1 different
  · exact ends.readFraction negative _

theorem numberValue_toDigits {number : Nat} (fits : number ≤ greatestWord) :
    numberValue false (Nat.toDigits 10 number) [] none = .ok (.integer number) := by
  unfold numberValue
  rw [foldl_collectWhole_toDigits fits]
  rfl

theorem numberValue_toDigits_negative {number : Nat} (positive : 0 < number)
    (fits : number ≤ greatestNegated) :
    numberValue true (Nat.toDigits 10 number) [] none = .ok (.integer (-Int.ofNat number)) := by
  unfold numberValue
  rw [foldl_collectWhole_toDigits (Nat.le_trans fits (by decide))]
  dsimp only
  exact if_pos (And.intro positive fits)

theorem start_digit {character : Char} (digit : character.isDigit = true) (rest : List Char) :
    start character rest = (readNumber false [character] rest).map .number id := by
  unfold start
  split
  case h_12 => rw [if_pos digit]
  all_goals exact absurd digit (by decide)

/-- The token at the front of a text that does not start with a space. -/
theorem next_cons {character : Char} (visible : isSpace character = false) (rest : List Char) :
    next (character :: rest) = some (start character rest) := by
  rw [next, List.dropWhile_cons_of_neg (by simp [visible])]

theorem next_null (rest : List Char) :
    next (Json.null.print.toList ++ rest) = some (.literal (.ok .null), rest) :=
  next_cons rfl _

theorem next_boolean (value : Bool) (rest : List Char) :
    next ((Json.boolean value).print.toList ++ rest) =
      some (.literal (.ok (.boolean value)), rest) := by
  cases value with
  | false => exact next_cons rfl _
  | true => exact next_cons rfl _

theorem isSpace_of_isDigit {character : Char} (digit : character.isDigit = true) :
    isSpace character = false := by
  have other (space : Char) (noDigit : space.isDigit = false) : character ≠ space := by
    rintro rfl
    rw [digit] at noDigit
    cases noDigit
  simp [isSpace, other ' ' rfl, other '\n' rfl, other '\t' rfl, other '\r' rfl]

/-- An integer that fits a word is read as it is written. -/
theorem next_integer {value : Int} (least : -(greatestNegated : Int) ≤ value)
    (greatest : value ≤ greatestWord) {rest : List Char} (ends : Ends rest) :
    next ((toString value).toList ++ rest) = some (.number (.ok (.integer value)), rest) := by
  cases value with
  | ofNat number =>
      have written : (toString (Int.ofNat number)).toList = Nat.toDigits 10 number :=
        Nat.toList_repr
      obtain ⟨first, later, digits⟩ : ∃ first later, Nat.toDigits 10 number = first :: later :=
        List.exists_cons_of_ne_nil Nat.toDigits_ne_nil
      have digit : first.isDigit = true :=
        isDigit_of_mem_toDigits first (digits ▸ List.mem_cons_self)
      rw [written, digits, List.cons_append, next_cons (isSpace_of_isDigit digit),
        start_digit digit, readNumber_toDigits false (digits.symm : [first] ++ later = _) ends,
        numberValue_toDigits (Int.ofNat_le.mp greatest)]
      rfl
  | negSucc number =>
      have written : (toString (Int.negSucc number)).toList =
          '-' :: Nat.toDigits 10 (number + 1) := by
        change ("-" ++ (number + 1).repr).toList = _
        rw [String.toList_append, Nat.toList_repr]
        rfl
      have fits : number + 1 ≤ greatestNegated := by omega
      rw [written, List.cons_append, next_cons rfl]
      change some ((readNumber true [] (Nat.toDigits 10 (number + 1) ++ rest)).map
        Token.number id) = _
      rw [readNumber_toDigits true (List.nil_append _) ends,
        numberValue_toDigits_negative (Nat.succ_pos number) fits]
      rfl

/-- The digits below sixteen stand for themselves. -/
theorem hexadecimalValue_digitChar {digit : Nat} (small : digit < 16) :
    hexadecimalValue digit.digitChar = some digit := by
  interval_cases digit <;> rfl

/-- A control is written with two digits behind two zeros. -/
theorem readUnits_control {unit : Nat} (small : unit < 0x20) (rest : List Char) :
    readUnits ('0' :: '0' :: (unit / 16).digitChar :: (unit % 16).digitChar :: rest) =
      .ok (.ok (Char.ofNat unit), rest) := by
  have digits : ['0', '0', (unit / 16).digitChar, (unit % 16).digitChar].mapM hexadecimalValue =
      some [0, 0, unit / 16, unit % 16] := by
    have zero : hexadecimalValue '0' = some 0 := rfl
    simp only [List.mapM_cons, List.mapM_nil, zero,
      hexadecimalValue_digitChar (show unit / 16 < 16 by omega),
      hexadecimalValue_digitChar (show unit % 16 < 16 by omega)]
    rfl
  have unitRead : readUnit ('0' :: '0' :: (unit / 16).digitChar :: (unit % 16).digitChar :: rest) =
      .ok (unit, rest) := by
    rw [readUnit, digits]
    simp only [List.foldl_cons, List.foldl_nil]
    congr 2
    omega
  have noTrailing : isTrailing unit = false := by
    simp only [isTrailing, Bool.and_eq_false_iff, decide_eq_false_iff_not]
    omega
  have noLeading : isLeading unit = false := by
    simp only [isLeading, Bool.and_eq_false_iff, decide_eq_false_iff_not]
    omega
  unfold readUnits
  rw [unitRead]
  simp [bind, Except.bind, noTrailing, noLeading, pure, Except.pure]

/-- The code point of a control is written behind this mark. -/
def codePoint (character : Char) : List Char :=
  ['u', '0', '0', (character.toNat / 16).digitChar, (character.toNat % 16).digitChar]

theorem readEscape_codePoint {character : Char} (control : character.toNat < 0x20)
    (rest : List Char) :
    readEscape (codePoint character ++ rest) = .ok (.ok character, rest) := by
  change readUnits ('0' :: '0' :: (character.toNat / 16).digitChar ::
    (character.toNat % 16).digitChar :: rest) = _
  rw [readUnits_control control, Char.ofNat_toNat]

theorem codePoint_of_lt {character : Char} (small : character.toNat < 0x10) :
    ['\\', 'u', '0', '0', '0'] ++ Nat.toDigits 16 character.toNat =
      '\\' :: codePoint character := by
  rw [Nat.toDigits_of_lt_base small, codePoint, Nat.div_eq_of_lt small, Nat.mod_eq_of_lt small]
  rfl

theorem codePoint_of_le {character : Char} (large : 0x10 ≤ character.toNat)
    (control : character.toNat < 0x20) :
    ['\\', 'u', '0', '0'] ++ Nat.toDigits 16 character.toNat = '\\' :: codePoint character := by
  rw [Nat.toDigits_of_base_le (by decide) large, Nat.toDigits_of_lt_base (by omega)]
  rfl

section

variable {collected rest : List Char}

theorem readText_escaped {character : Char} {written : List Char}
    (escaped : readEscape (written ++ rest) = .ok (.ok character, rest)) :
    readText none collected ('\\' :: written ++ rest) =
      readText none (character :: collected) rest := by
  rw [List.cons_append, readText.eq_def]
  simp only
  split
  · rename_i refused
    rw [escaped] at refused
    cases refused
  · rename_i found
    rw [escaped] at found
    cases found
    rfl
  · rename_i found
    rw [escaped] at found
    cases found

theorem readText_visible {character : Char} (visible : ¬ character.toNat < 0x20)
    (noQuote : character ≠ '"') (noEscape : character ≠ '\\') :
    readText none collected (character :: rest) = readText none (character :: collected) rest := by
  rw [readText]
  · rw [if_neg visible]
  · exact noQuote
  · exact noEscape

/-- A character is read as it is written in a text. -/
theorem readText_escape (character : Char) :
    readText none collected (Json.escape character ++ rest) =
      readText none (character :: collected) rest := by
  unfold Json.escape
  split
  case h_8 noQuote noEscape _ _ _ _ _ =>
    split
    · rename_i small
      rw [codePoint_of_lt small]
      exact readText_escaped (readEscape_codePoint (Nat.lt_trans small (by decide)) rest)
    · split
      · rename_i large control
        rw [codePoint_of_le (Nat.le_of_not_lt large) control]
        exact readText_escaped (readEscape_codePoint control rest)
      · rename_i visible
        exact readText_visible visible noQuote noEscape
  all_goals exact readText_escaped rfl

/-- A text is read up to the mark behind it. -/
theorem readText_flatMap_escape (characters : List Char) :
    readText none collected (characters.flatMap Json.escape ++ '"' :: rest) =
      (.ok (String.ofList (collected.reverse ++ characters)), rest) := by
  induction characters generalizing collected with
  | nil =>
      rw [List.flatMap_nil, List.nil_append, readText, List.append_nil]
  | cons character characters inductionHypothesis =>
      rw [List.flatMap_cons, List.append_assoc, readText_escape, inductionHypothesis,
        List.reverse_cons, List.append_assoc]
      rfl

/-- A text is read as it is written. -/
theorem next_printText (text : String) :
    next ((Json.printText text).toList ++ rest) = some (.text (.ok text), rest) := by
  have written : (Json.printText text).toList ++ rest =
      '"' :: (text.toList.flatMap Json.escape ++ '"' :: rest) := by
    rw [Json.printText, String.toList_ofList]
    simp
  rw [written, next_cons rfl]
  change some ((readText none [] _).map Token.text id) = _
  rw [readText_flatMap_escape, List.reverse_nil, List.nil_append, String.ofList_toList]
  rfl

end

end Token

end AccessGraph
