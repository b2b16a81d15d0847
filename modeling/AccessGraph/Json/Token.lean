/-
This file reads one token from a text. A number or a text is read for two readers at once: one who
wants its value, and one who only passes over it and forgives more.
-/

import AccessGraph.Json.Fault
import AccessGraph.Decimal.Reading
import AccessGraph.Decimal.Shortest

namespace AccessGraph

inductive Literal where
  | null
  | boolean (value : Bool)
deriving DecidableEq, Repr

/-- A number that is not a 64-bit integer is kept as its shortest decimal text. -/
inductive Number where
  | integer (value : Int)
  | decimal (digits : String)
deriving DecidableEq, Repr

/-- What a reader gets who wants the value, and the fault that stops even one who passes over it. -/
structure Leaf (α : Type) where
  value : Except Fault α
  broken : Option Fault

namespace Leaf

def ok {α : Type} (value : α) : Leaf α := ⟨.ok value, none⟩

/-- Nobody gets past this fault. -/
def stop {α : Type} (fault : Fault) : Leaf α := ⟨.error fault, some fault⟩

end Leaf

inductive Token where
  | openArray
  | closeArray
  | openObject
  | closeObject
  | comma
  | colon
  | literal (value : Except Fault Literal)
  | number (leaf : Leaf Number)
  | text (leaf : Leaf String)
  | stray

namespace Token

def isSpace (character : Char) : Bool :=
  character = ' ' || character = '\n' || character = '\t' || character = '\r'

/-- The rest of a literal follows letter by letter. -/
def readWord (literal : Literal) : List Char → List Char → Except Fault Literal × List Char
  | [], rest => (.ok literal, rest)
  | _ :: _, [] => (.error .truncated, [])
  | letter :: letters, character :: rest =>
      if letter = character then readWord literal letters rest else (.error .malformed, rest)

/-- The greatest number that fits a word of 64 bits. -/
def greatestWord : Nat := 0xFFFFFFFFFFFFFFFF

/-- The greatest number whose negative fits a word of 64 bits. -/
def greatestNegated : Nat := 0x8000000000000000

def digitValue (character : Char) : Nat :=
  character.toNat - '0'.toNat

/-- Digits are collected while they fit a word; the second number counts those left out. -/
def collectWhole (collected : Nat × Nat) (character : Char) : Nat × Nat :=
  let longer := collected.1 * 10 + digitValue character
  if collected.2 = 0 ∧ longer ≤ greatestWord then (longer, 0)
  else (collected.1, collected.2 + 1)

/-- The digits of a fraction go on while they fit a word; the second number counts them. -/
def collectFraction (collected : Nat × Nat) : List Char → Nat × Nat
  | [] => collected
  | character :: rest =>
      let longer := collected.1 * 10 + digitValue character
      if longer ≤ greatestWord then collectFraction (longer, collected.2 + 1) rest else collected

/-- A magnitude that is too large is a fault. -/
def decimalValue (negative : Bool) (digits : Nat) (exponent : Int) : Except Fault Number :=
  match Decimal.read digits exponent with
  | some magnitude => .ok (.decimal (Decimal.report negative magnitude))
  | none => .error .malformed

/-- Without a fraction and an exponent the number is an integer, if a word holds it; a negative zero
is not one. -/
def numberValue (negative : Bool) (whole fraction : List Char) (exponent : Option Int) :
    Except Fault Number :=
  let (digits, dropped) := whole.foldl collectWhole (0, 0)
  if fraction.isEmpty && exponent.isNone && dropped == 0 then
    if negative then
      if 0 < digits ∧ digits ≤ greatestNegated then .ok (.integer (-Int.ofNat digits))
      else decimalValue true digits 0
    else .ok (.integer digits)
  else
    let (digits, added) := collectFraction (digits, 0) fraction
    decimalValue negative digits (Int.ofNat dropped - Int.ofNat added + exponent.getD 0)

/-- Where a digit is wanted, the end of the text is told from other characters by those alone who
want the value. -/
def digitWanted (rest : List Char) : Leaf Number :=
  ⟨.error (if rest.isEmpty then .truncated else .malformed), some .malformed⟩

def readExponent (negative : Bool) (whole fraction : List Char) (text : List Char) :
    Leaf Number × List Char :=
  let (down, text) :=
    match text with
    | '+' :: rest => (false, rest)
    | '-' :: rest => (true, rest)
    | _ => (false, text)
  let digits := text.takeWhile Char.isDigit
  let rest := text.dropWhile Char.isDigit
  if digits.isEmpty then (digitWanted rest, [])
  else
    let power := Int.ofNat (digits.foldl (fun sum digit => sum * 10 + digitValue digit) 0)
    (⟨numberValue negative whole fraction (some (if down then -power else power)), none⟩, rest)

def readAfterFraction (negative : Bool) (whole fraction : List Char) (text : List Char) :
    Leaf Number × List Char :=
  match text with
  | 'e' :: rest => readExponent negative whole fraction rest
  | 'E' :: rest => readExponent negative whole fraction rest
  | _ => (⟨numberValue negative whole fraction none, none⟩, text)

def readFraction (negative : Bool) (whole : List Char) (text : List Char) :
    Leaf Number × List Char :=
  match text with
  | '.' :: rest =>
      let fraction := rest.takeWhile Char.isDigit
      let rest := rest.dropWhile Char.isDigit
      if fraction.isEmpty then (digitWanted rest, [])
      else readAfterFraction negative whole fraction rest
  | _ => readAfterFraction negative whole [] text

/-- A number does not start with a zero that another digit follows. -/
def readNumber (negative : Bool) (first : List Char) (text : List Char) :
    Leaf Number × List Char :=
  let whole := first ++ text.takeWhile Char.isDigit
  let rest := text.dropWhile Char.isDigit
  match whole with
  | [] => (digitWanted rest, [])
  | '0' :: _ :: _ => (.stop .malformed, [])
  | _ => readFraction negative whole rest

def hexadecimalValue (character : Char) : Option Nat :=
  if character.isDigit then some (character.toNat - '0'.toNat)
  else if 'a' ≤ character ∧ character ≤ 'f' then some (character.toNat - 'a'.toNat + 10)
  else if 'A' ≤ character ∧ character ≤ 'F' then some (character.toNat - 'A'.toNat + 10)
  else none

/-- Four digits give a unit of 16 bits. The text is cut short when fewer than four bytes of it are
left. -/
def readUnit (text : List Char) : Except Fault (Nat × List Char) :=
  match text with
  | first :: second :: third :: fourth :: rest =>
      match [first, second, third, fourth].mapM hexadecimalValue with
      | some digits => .ok (digits.foldl (fun sum digit => sum * 16 + digit) 0, rest)
      | none => .error .malformed
  | _ => .error (if (String.ofList text).utf8ByteSize < 4 then .truncated else .malformed)

def isLeading (unit : Nat) : Bool := 0xD800 ≤ unit && unit ≤ 0xDBFF

def isTrailing (unit : Nat) : Bool := 0xDC00 ≤ unit && unit ≤ 0xDFFF

def joinUnits (leading trailing : Nat) : Char :=
  Char.ofNat ((leading - 0xD800) * 0x400 + (trailing - 0xDC00) + 0x10000)

/-- A leading unit makes a character with the trailing unit after it. A unit without its partner is
a fault for those alone who want the value. -/
def readUnits (text : List Char) : Except Fault (Except Fault Char × List Char) := do
  let (unit, rest) ← readUnit text
  if isTrailing unit then return (.error .malformed, rest)
  if isLeading unit then
    match rest with
    | '\\' :: 'u' :: after => do
        let (partner, after) ← readUnit after
        if isTrailing partner then return (.ok (joinUnits unit partner), after)
        return (.error .malformed, after)
    | [] => return (.error .truncated, rest)
    | ['\\'] => return (.error .truncated, rest)
    | _ => return (.error .malformed, rest)
  return (.ok (Char.ofNat unit), rest)

def readEscape (text : List Char) : Except Fault (Except Fault Char × List Char) :=
  match text with
  | [] => .error .truncated
  | 'u' :: rest => readUnits rest
  | '"' :: rest => .ok (.ok '"', rest)
  | '\\' :: rest => .ok (.ok '\\', rest)
  | '/' :: rest => .ok (.ok '/', rest)
  | 'b' :: rest => .ok (.ok '\x08', rest)
  | 'f' :: rest => .ok (.ok '\x0c', rest)
  | 'n' :: rest => .ok (.ok '\n', rest)
  | 'r' :: rest => .ok (.ok '\r', rest)
  | 't' :: rest => .ok (.ok '\t', rest)
  | _ => .error .malformed

theorem readUnit_shorter {text rest : List Char} {unit : Nat}
    (result : readUnit text = .ok (unit, rest)) : rest.length < text.length := by
  unfold readUnit at result
  split at result
  · split at result
    · cases result; simp only [List.length_cons]; omega
    · cases result
  · cases result

theorem readUnits_shorter {text rest : List Char} {character : Except Fault Char}
    (result : readUnits text = .ok (character, rest)) : rest.length < text.length := by
  unfold readUnits at result
  cases first : readUnit text with
  | error fault => rw [first] at result; cases result
  | ok pair =>
      obtain ⟨unit, after⟩ := pair
      have shorter := readUnit_shorter first
      rw [first] at result
      simp only [bind, Except.bind, pure, Except.pure] at result
      split at result
      · cases result; exact shorter
      · split at result
        · split at result
          · rename_i next
            cases second : readUnit next with
            | error fault => rw [second] at result; cases result
            | ok pair =>
                have further := readUnit_shorter second
                rw [second] at result
                simp only [List.length_cons] at shorter
                dsimp only at result
                split at result <;> cases result <;> omega
          all_goals cases result; exact shorter
        · cases result; exact shorter

theorem readEscape_shorter {text rest : List Char} {character : Except Fault Char}
    (result : readEscape text = .ok (character, rest)) : rest.length < text.length := by
  unfold readEscape at result
  split at result
  case h_2 => have := readUnits_shorter result; simp only [List.length_cons]; omega
  all_goals cases result
  all_goals simp only [List.length_cons]; omega

/-- The characters collected so far stand last first. The first fault of a reader who wants the
value is kept while the text is passed over. -/
def readText (fault : Option Fault) (collected : List Char) (text : List Char) :
    Leaf String × List Char :=
  match text with
  | [] => (⟨.error (fault.getD .truncated), some .truncated⟩, [])
  | '"' :: rest =>
      match fault with
      | some fault => (⟨.error fault, none⟩, rest)
      | none => (.ok (String.ofList collected.reverse), rest)
  | '\\' :: rest =>
      match _escaped : readEscape rest with
      | .error stop => (⟨.error (fault.getD stop), some stop⟩, [])
      | .ok (.ok character, rest) => readText fault (character :: collected) rest
      | .ok (.error found, rest) => readText (fault.or (some found)) collected rest
  | character :: rest =>
      if character.toNat < 0x20 then (⟨.error (fault.getD .malformed), some .malformed⟩, [])
      else readText fault (character :: collected) rest
termination_by text.length
decreasing_by
  all_goals first
    | exact Nat.lt_succ_of_lt (readEscape_shorter _escaped)
    | exact Nat.lt_succ_self _

theorem readText_rest (fault : Option Fault) (collected text : List Char) :
    (readText fault collected text).2.length ≤ text.length := by
  fun_induction readText fault collected text with
  | case1 => simp
  | case2 => simp
  | case3 => simp
  | case4 => simp
  | case5 collected fault text character rest escaped inductionHypothesis =>
      have := readEscape_shorter escaped
      simp only [List.length_cons]
      omega
  | case6 collected fault text found rest escaped inductionHypothesis =>
      have := readEscape_shorter escaped
      simp only [List.length_cons]
      omega
  | case7 => simp
  | case8 => simp only [List.length_cons]; omega

theorem readWord_rest (literal : Literal) (letters text : List Char) :
    (readWord literal letters text).2.length ≤ text.length := by
  fun_induction readWord literal letters text with
  | case1 => simp
  | case2 => simp
  | case3 => simp only [List.length_cons]; omega
  | case4 => simp

theorem dropWhile_rest (kept : Char → Bool) (text : List Char) :
    (text.dropWhile kept).length ≤ text.length :=
  (List.dropWhile_suffix kept).length_le

theorem readExponent_rest (negative : Bool) (whole fraction text : List Char) :
    (readExponent negative whole fraction text).2.length ≤ text.length := by
  have signed : ∀ rest : List Char, (rest.dropWhile Char.isDigit).length ≤ rest.length :=
    dropWhile_rest Char.isDigit
  unfold readExponent
  split
  rename_i equation
  split at equation <;> cases equation <;> dsimp only <;> split
  all_goals first
    | exact Nat.zero_le _
    | exact signed _
    | exact Nat.le_succ_of_le (signed _)

theorem readAfterFraction_rest (negative : Bool) (whole fraction text : List Char) :
    (readAfterFraction negative whole fraction text).2.length ≤ text.length := by
  unfold readAfterFraction
  split
  · exact Nat.le_succ_of_le (readExponent_rest ..)
  · exact Nat.le_succ_of_le (readExponent_rest ..)
  · exact Nat.le_refl _

theorem readFraction_rest (negative : Bool) (whole text : List Char) :
    (readFraction negative whole text).2.length ≤ text.length := by
  unfold readFraction
  split
  · dsimp only
    split
    · exact Nat.zero_le _
    · exact Nat.le_succ_of_le
        (Nat.le_trans (readAfterFraction_rest ..) (dropWhile_rest ..))
  · exact readAfterFraction_rest ..

theorem readNumber_rest (negative : Bool) (first text : List Char) :
    (readNumber negative first text).2.length ≤ text.length := by
  unfold readNumber
  dsimp only
  split
  · exact Nat.zero_le _
  · exact Nat.zero_le _
  · exact Nat.le_trans (readFraction_rest ..) (dropWhile_rest ..)

/-- This function reads the token that starts with a given character. -/
def start (character : Char) (rest : List Char) : Token × List Char :=
  match character with
  | '[' => (.openArray, rest)
  | ']' => (.closeArray, rest)
  | '{' => (.openObject, rest)
  | '}' => (.closeObject, rest)
  | ',' => (.comma, rest)
  | ':' => (.colon, rest)
  | 'n' => (readWord .null ['u', 'l', 'l'] rest).map .literal id
  | 't' => (readWord (.boolean true) ['r', 'u', 'e'] rest).map .literal id
  | 'f' => (readWord (.boolean false) ['a', 'l', 's', 'e'] rest).map .literal id
  | '"' => (readText none [] rest).map .text id
  | '-' => (readNumber true [] rest).map .number id
  | _ =>
      if character.isDigit then (readNumber false [character] rest).map .number id
      else (.stray, rest)

theorem start_rest (character : Char) (rest : List Char) :
    (start character rest).2.length ≤ rest.length := by
  unfold start
  split
  case h_7 => exact readWord_rest ..
  case h_8 => exact readWord_rest ..
  case h_9 => exact readWord_rest ..
  case h_10 => exact readText_rest ..
  case h_11 => exact readNumber_rest ..
  case h_12 =>
    split
    · exact readNumber_rest ..
    · exact Nat.le_refl _
  all_goals exact Nat.le_refl _

/-- This function reads the next token, if there is one, and gives the text after it. -/
def next (text : List Char) : Option (Token × List Char) :=
  match text.dropWhile isSpace with
  | [] => none
  | character :: rest => some (start character rest)

/-- Every token takes at least one character. -/
theorem next_shorter {text rest : List Char} {token : Token}
    (found : next text = some (token, rest)) : rest.length < text.length := by
  unfold next at found
  split at found
  · cases found
  · rename_i character tail equation
    have kept := dropWhile_rest isSpace text
    have shorter := start_rest character tail
    rw [equation] at kept
    rw [Option.some.inj found] at shorter
    simp only [List.length_cons] at kept
    exact Nat.lt_of_lt_of_le (Nat.lt_succ_of_le shorter) kept

end Token

end AccessGraph
