/-
This file says that names change no more once they are normalized: lower-case characters stay as they
are, and lower case brings no blank characters to the ends.
-/

import AccessGraph.Proofs.Text.Joined
import AccessGraph.Rule.Normalize

namespace AccessGraph

namespace Text

/-- Lower case leaves the character as it is, wherever it stands. -/
structure IsLower (character : Char) : Prop where
  notSigma : character ≠ 'Σ'
  unchanged : lowerCharacter character = [character]

/-- A character becomes some characters: they are in lower case, and visible if it is. -/
structure Lowers (character : Char) (characters : List Char) : Prop where
  some : characters ≠ []
  lower : ∀ lowered ∈ characters, IsLower lowered
  visible : isBlank character = false → ∀ lowered ∈ characters, isBlank lowered = false

theorem Lowers.of_single {character lowered : Char} (lower : IsLower lowered)
    (visible : isBlank character = false → isBlank lowered = false) :
    Lowers character [lowered] where
  some := List.cons_ne_nil _ _
  lower := by simpa using lower
  visible := by simpa using visible

namespace CaseRun

/-- The code points that the characters of a run become stay clear of a range. -/
def missesRange (run : CaseRun) (first last : Nat) : Bool :=
  Nat.blt (run.lower + (run.last - run.first)) first || Nat.blt last run.lower

/-- No character of one run becomes one of the other: they are far apart, or in step with each other
and never meet. -/
def missesRun (run other : CaseRun) : Bool :=
  run.missesRange other.first other.last ||
    (Nat.beq other.step 2 && (Nat.beq run.step 2 || Nat.beq run.first run.last) &&
      Nat.beq ((run.lower + other.first) % 2) 1)

/-- The characters of a run become visible characters that no run changes. -/
def isFinal (run : CaseRun) : Bool :=
  caseRuns.all run.missesRun && run.missesRange 0x130 0x130 && run.missesRange 0x3A3 0x3A3 &&
    run.missesRange 0xD800 0xDFFF && Nat.blt (run.lower + (run.last - run.first)) 0x110000 &&
    blankRanges.all (fun range => run.missesRange range.1 range.2) &&
    (run.missesRange 0 0x7F || (Nat.beq run.first run.last && Nat.beq run.lower 0x6B))

end CaseRun

theorem caseRuns_isFinal : caseRuns.all CaseRun.isFinal = true := by
  decide +kernel

namespace CaseRun

variable {run other : CaseRun} {code first last : Nat}

theorem missesRange_iff : run.missesRange first last = true ↔
    run.lower + (run.last - run.first) < first ∨ last < run.lower := by
  simp [missesRange]

theorem covers_iff : run.covers code = true ↔
    run.first ≤ code ∧ code ≤ run.last ∧ (code - run.first) % run.step = 0 := by
  simp [covers, and_assoc]

/-- What a run makes of its characters is covered by no run that it misses. -/
theorem not_covers_of_missesRun (misses : run.missesRun other = true)
    (covered : run.covers code = true) :
    other.covers (run.lower + (code - run.first)) = false := by
  obtain ⟨fromFirst, toLast, onStep⟩ := covers_iff.mp covered
  rw [← Bool.not_eq_true, covers_iff]
  intro again
  obtain ⟨fromOther, toOther, alsoOnStep⟩ := again
  simp only [missesRun, Bool.or_eq_true, Bool.and_eq_true, missesRange_iff, Nat.beq_eq]
    at misses
  rcases misses with (before | after) | ⟨⟨double, inStep⟩, odd⟩
  · omega
  · omega
  · rw [double] at alsoOnStep
    have even : (code - run.first) % 2 = 0 := by
      rcases inStep with step | single
      · rwa [step] at onStep
      · omega
    omega

/-- The character that a run makes of one that it covers. -/
def lowered (run : CaseRun) (character : Char) : Char :=
  Char.ofNat (run.lower + (character.toNat - run.first))

theorem toNat_lowered {character : Char} (final : run.isFinal = true)
    (covered : run.covers character.toNat = true) :
    (run.lowered character).toNat = run.lower + (character.toNat - run.first) := by
  obtain ⟨fromFirst, toLast, -⟩ := covers_iff.mp covered
  simp only [isFinal, Bool.and_eq_true, missesRange_iff, Nat.blt_eq] at final
  obtain ⟨⟨⟨⟨-, noSurrogate⟩, bounded⟩, -⟩, -⟩ := final
  have valid : (run.lower + (character.toNat - run.first)).isValidChar := by
    rw [Nat.isValidChar]
    omega
  rw [lowered, Char.ofNat, dif_pos valid]
  rfl

theorem isLower_lowered {character : Char} (final : run.isFinal = true)
    (covered : run.covers character.toNat = true) : IsLower (run.lowered character) := by
  have code := toNat_lowered final covered
  obtain ⟨fromFirst, toLast, -⟩ := covers_iff.mp covered
  simp only [isFinal, Bool.and_eq_true, Bool.or_eq_true, missesRange_iff, Nat.beq_eq,
    List.all_eq_true] at final
  obtain ⟨⟨⟨⟨⟨⟨meetsNone, notDotted⟩, notSigma⟩, -⟩, -⟩, -⟩, ascii⟩ := final
  have different {special : Char}
      (misses : run.lower + (run.last - run.first) < special.toNat ∨ special.toNat < run.lower) :
      run.lowered character ≠ special := by
    intro same
    rw [same] at code
    omega
  refine ⟨different notSigma, ?_⟩
  rcases ascii with (impossible | beyond) | ⟨single, kelvin⟩
  · exact absurd impossible (Nat.not_lt_zero _)
  · have none : caseRuns.find? (·.covers (run.lowered character).toNat) = none := by
      rw [code, List.find?_eq_none]
      intro other member
      simp [not_covers_of_missesRun (meetsNone other member) covered]
    have dotless : run.lowered character ≠ 'İ' := different notDotted
    rw [lowerCharacter, if_neg (by omega), if_neg dotless, none]
  · have letter : run.lowered character = 'k' := by
      rw [lowered, kelvin, show character.toNat - run.first = 0 by omega]
    rw [letter]
    decide

theorem isBlank_lowered {character : Char} (final : run.isFinal = true)
    (covered : run.covers character.toNat = true) :
    isBlank (run.lowered character) = false := by
  have code := toNat_lowered final covered
  obtain ⟨fromFirst, toLast, -⟩ := covers_iff.mp covered
  simp only [isFinal, Bool.and_eq_true, List.all_eq_true, missesRange_iff] at final
  obtain ⟨⟨-, visible⟩, -⟩ := final
  simp only [isBlank, inRanges, List.any_eq_false, Bool.and_eq_true, decide_eq_true_eq]
  intro range member
  have misses := visible range member
  omega

end CaseRun

theorem lowers_ascii {character : Char} (ascii : character.toNat < 128) :
    Lowers character [character.toLower] := by
  have notSigma : ∀ code : Fin 128, (Char.ofNat code).toLower ≠ 'Σ' := by
    decide +kernel
  have unchanged : ∀ code : Fin 128,
      lowerCharacter (Char.ofNat code).toLower = [(Char.ofNat code).toLower] := by
    decide +kernel
  have visible : ∀ code : Fin 128, isBlank (Char.ofNat code) = false →
      isBlank (Char.ofNat code).toLower = false := by
    decide +kernel
  have same := Char.ofNat_toNat character
  exact .of_single ⟨same ▸ notSigma ⟨_, ascii⟩, same ▸ unchanged ⟨_, ascii⟩⟩
    (same ▸ visible ⟨_, ascii⟩)

theorem lowers_dotted : Lowers 'İ' ['i', Char.ofNat 0x307] where
  some := List.cons_ne_nil _ _
  lower := by
    simp only [List.forall_mem_cons, List.not_mem_nil, false_implies, implies_true, and_true]
    exact ⟨⟨by decide, by decide +kernel⟩, by decide, by decide +kernel⟩
  visible := by
    simp only [List.forall_mem_cons, List.not_mem_nil, false_implies, implies_true, and_true]
    decide +kernel

/-- Every character but `Σ` becomes characters that stay as they are. -/
theorem lowers_lowerCharacter {character : Char} (notSigma : character ≠ 'Σ') :
    Lowers character (lowerCharacter character) := by
  unfold lowerCharacter
  split
  · rename_i ascii
    exact lowers_ascii ascii
  · rename_i beyond
    split
    · rename_i dotted
      exact dotted ▸ lowers_dotted
    · rename_i notDotted
      split
      · rename_i run found
        have final := List.all_eq_true.mp caseRuns_isFinal run (List.mem_of_find?_eq_some found)
        have covered : run.covers character.toNat = true := by
          simpa using List.find?_some found
        exact .of_single (run.isLower_lowered final covered)
          (fun _ => run.isBlank_lowered final covered)
      · rename_i none
        refine .of_single ⟨notSigma, ?_⟩ id
        rw [lowerCharacter, if_neg beyond, if_neg notDotted, none]

theorem lowers_sigma (before after : List Char) : Lowers 'Σ' [lowerSigma before after] := by
  unfold lowerSigma
  split
  · exact .of_single ⟨by decide, by decide +kernel⟩ (by decide +kernel)
  · exact .of_single ⟨by decide, by decide +kernel⟩ (by decide +kernel)

/-- A text is put into lower case one character after the other. -/
theorem exists_lowers (before after : List Char) (character : Char) :
    ∃ lowered, Lowers character lowered ∧
      lowerAfter before (character :: after) = lowered ++ lowerAfter (character :: before) after := by
  rw [lowerAfter]
  split
  · rename_i sigma
    exact ⟨_, sigma ▸ lowers_sigma before after, rfl⟩
  · rename_i other
    exact ⟨_, lowers_lowerCharacter other, rfl⟩

theorem isLower_of_mem_lowerAfter {before characters : List Char} :
    ∀ lowered ∈ lowerAfter before characters, IsLower lowered := by
  induction characters generalizing before with
  | nil => simp [lowerAfter]
  | cons character after inductionHypothesis =>
      obtain ⟨lowered, lowers, same⟩ := exists_lowers before after character
      rw [same, List.forall_mem_append]
      exact ⟨lowers.lower, inductionHypothesis⟩

/-- Characters in lower case stay as they are. -/
theorem lowerAfter_of_isLower {before characters : List Char}
    (lower : ∀ character ∈ characters, IsLower character) :
    lowerAfter before characters = characters := by
  induction characters generalizing before with
  | nil => rfl
  | cons character after inductionHypothesis =>
      obtain ⟨first, rest⟩ := List.forall_mem_cons.mp lower
      rw [lowerAfter, if_neg first.notSigma, first.unchanged, inductionHypothesis rest]
      rfl

theorem lowercase_lowercase (text : String) : lowercase (lowercase text) = lowercase text := by
  rw [lowercase, lowercase, String.toList_ofList,
    lowerAfter_of_isLower isLower_of_mem_lowerAfter]

/-- Nothing is blank at the start of the list. -/
theorem dropWhile_isBlank_iff {characters : List Char} :
    characters.dropWhile isBlank = characters ↔
      ∀ character ∈ characters.head?, isBlank character = false := by
  rw [List.dropWhile_eq_self_iff]
  cases characters <;> simp

theorem rdropWhile_isBlank_iff {characters : List Char} :
    characters.rdropWhile isBlank = characters ↔
      ∀ character ∈ characters.getLast?, isBlank character = false := by
  rw [List.rdropWhile, ← List.head?_reverse, ← dropWhile_isBlank_iff]
  exact List.reverse_eq_iff

/-- Lower case starts with a visible character where the text does. -/
theorem head?_lowerAfter {before characters : List Char}
    (visible : ∀ character ∈ characters.head?, isBlank character = false) :
    ∀ lowered ∈ (lowerAfter before characters).head?, isBlank lowered = false := by
  cases characters with
  | nil => simp [lowerAfter]
  | cons character after =>
      obtain ⟨first, lowers, same⟩ := exists_lowers before after character
      intro lowered member
      rw [same, List.head?_append_of_ne_nil _ lowers.some] at member
      exact lowers.visible (visible character rfl) _ (List.mem_of_mem_head? member)

/-- Lower case ends with a visible character where the text does. -/
theorem getLast?_lowerAfter {before characters : List Char}
    (visible : ∀ character ∈ characters.getLast?, isBlank character = false) :
    ∀ lowered ∈ (lowerAfter before characters).getLast?, isBlank lowered = false := by
  induction characters generalizing before with
  | nil => simp [lowerAfter]
  | cons character after inductionHypothesis =>
      obtain ⟨first, lowers, same⟩ := exists_lowers before after character
      intro lowered member
      rw [same] at member
      cases after with
      | nil =>
          rw [lowerAfter, List.append_nil] at member
          exact lowers.visible (visible character rfl) _ (List.mem_of_getLast? member)
      | cons next rest =>
          obtain ⟨second, alsoLowers, further⟩ := exists_lowers (character :: before) rest next
          have more : lowerAfter (character :: before) (next :: rest) ≠ [] := by
            simp [further, alsoLowers.some]
          rw [List.getLast?_append_of_ne_nil _ more] at member
          exact inductionHypothesis (by simpa using visible) lowered member

theorem trimCharacters_eq_self_iff {characters : List Char} :
    trimCharacters characters = characters ↔
      characters.dropWhile isBlank = characters ∧ characters.rdropWhile isBlank = characters := by
  change (characters.dropWhile isBlank).rdropWhile isBlank = characters ↔ _
  constructor
  · intro trimmed
    have shorter := (List.rdropWhile_prefix isBlank (characters.dropWhile isBlank)).length_le
    rw [trimmed] at shorter
    have start := (List.dropWhile_suffix isBlank).eq_of_length_le shorter
    rw [start] at trimmed
    exact ⟨start, trimmed⟩
  · intro bare
    rw [bare.1, bare.2]

/-- Nothing is left to trim when a trimmed text is put into lower case. -/
theorem trim_lowercase_trim (text : String) :
    trim (lowercase (trim text)) = lowercase (trim text) := by
  have trimmed : trimCharacters (trim text).toList = (trim text).toList := by
    simpa [trim] using congrArg String.toList (trim_trim text)
  obtain ⟨start, stop⟩ := trimCharacters_eq_self_iff.mp trimmed
  have lowered : trimCharacters (lowerAfter [] (trim text).toList) =
      lowerAfter [] (trim text).toList :=
    trimCharacters_eq_self_iff.mpr
      ⟨dropWhile_isBlank_iff.mpr (head?_lowerAfter (dropWhile_isBlank_iff.mp start)),
        rdropWhile_isBlank_iff.mpr (getLast?_lowerAfter (rdropWhile_isBlank_iff.mp stop))⟩
  rw [trim, lowercase, String.toList_ofList, lowered]

end Text

/-- Normalized names stay as they are. -/
theorem normalizeName_normalizeName (name : String) :
    normalizeName (normalizeName name) = normalizeName name := by
  rw [normalizeName, normalizeName, Text.trim_lowercase_trim, Text.lowercase_lowercase]

end AccessGraph
