import Diglot.Lexeme.Scan
import Diglot.Markup

/-!
# Characters that keep apart

What a scanner does next depends on the class of the next characters. This module says which
classes exclude each other: a character that starts a word begins nothing else, a directional
control begins nothing at all and goes on with nothing, and an inert character is one that no
lookahead of the scanner asks for.
-/

set_option autoImplicit false

namespace Diglot

open Text (isLetter isBlank isNewline isMark isNumeral)

/-! ## Tables -/

/-- What holds of each character of a list, tested one by one. -/
theorem forall_mem_of_all {p : Char → Prop} [DecidablePred p] {chars : List Char}
    (all : chars.all (fun c => decide (p c)) = true) : ∀ c ∈ chars, p c := by
  simpa using all

/-- Whether no range of one table meets a range of the other. -/
def Text.CodeRanges.apartFrom (a b : Text.CodeRanges) : Bool :=
  a.all fun r => b.all fun s => r.2 < s.1 || s.2 < r.1

/-- Tables that are apart have no character in common. -/
theorem Text.CodeRanges.covers_eq_false_of_apartFrom {a b : Text.CodeRanges} {c : Char}
    (apart : a.apartFrom b = true) (inA : a.covers c = true) : b.covers c = false := by
  rw [Bool.eq_false_iff]
  intro inB
  obtain ⟨r, rMember, rLow, rHigh⟩ := exists_of_coversCode inA
  obtain ⟨s, sMember, sLow, sHigh⟩ := exists_of_coversCode inB
  have separate := List.all_eq_true.1 (List.all_eq_true.1 apart r rMember) s sMember
  simp only [Bool.or_eq_true, decide_eq_true_eq] at separate
  omega

theorem isBlank_eq_false_of_isLetter {c : Char} (letter : isLetter c = true) :
    isBlank c = false :=
  Text.CodeRanges.covers_eq_false_of_apartFrom (by decide +kernel) letter

/-- The letters of the first table row on lie above the digits and signs. -/
theorem lt_toNat_of_isLetter {c : Char} (letter : isLetter c = true) : 0x40 < c.toNat := by
  obtain ⟨r, member, low, -⟩ := Text.CodeRanges.exists_of_coversCode letter
  have above : ∀ r ∈ Text.letterRanges, 0x40 < r.1 := by decide +kernel
  have := above r member
  omega

/-! ## Inert characters -/

/-- Whether no lookahead of the scanner asks for the character: it is an opening bracket, or it is
outside ASCII, and no blank. -/
def isInert (c : Char) : Bool :=
  (128 ≤ c.toNat || c ∈ ['(', '[', '{']) && !isBlank c

/-- An inert character that is no opening bracket is outside ASCII. -/
theorem isInert_iff {c : Char} :
    isInert c = true ↔ (128 ≤ c.toNat ∨ c ∈ ['(', '[', '{']) ∧ isBlank c = false := by
  simp [isInert]

theorem isBlank_eq_false_of_isInert {c : Char} (inert : isInert c = true) : isBlank c = false :=
  (isInert_iff.1 inert).2

theorem ne_of_isInert {c d : Char} (inert : isInert c = true) (asked : isInert d = false) :
    c ≠ d := by
  rintro rfl
  simp [inert] at asked

/-- A class of characters that lookahead asks for: none of them is inert. -/
def Asked (p : Char → Bool) : Prop :=
  ∀ c, isInert c = true → p c = false

theorem toNat_of_isHexDigit {c : Char} (digit : Number.isHexDigit c = true) :
    (48 ≤ c.toNat ∧ c.toNat ≤ 57) ∨ (97 ≤ c.toNat ∧ c.toNat ≤ 102) ∨
      (65 ≤ c.toNat ∧ c.toNat ≤ 70) := by
  simp only [Number.isHexDigit, Text.isDigit, Bool.or_eq_true, Bool.and_eq_true,
    decide_eq_true_eq, Char.le_def, UInt32.le_iff_toNat_le] at digit
  rcases digit with (digit | digit) | digit
  · exact .inl digit
  · exact .inr (.inl digit)
  · exact .inr (.inr digit)

theorem isHexDigit_of_isDigit {c : Char} (digit : Text.isDigit c = true) :
    Number.isHexDigit c = true := by
  simp [Number.isHexDigit, digit]

theorem isHexDigit_of_isOctalDigit {c : Char} (digit : Number.isOctalDigit c = true) :
    Number.isHexDigit c = true := by
  simp only [Number.isOctalDigit, Bool.and_eq_true, decide_eq_true_eq] at digit
  apply isHexDigit_of_isDigit
  simp only [Text.isDigit, Bool.and_eq_true, decide_eq_true_eq]
  exact ⟨digit.1, Char.le_trans digit.2 (by decide)⟩

theorem isHexDigit_of_isBinaryDigit {c : Char} (digit : Number.isBinaryDigit c = true) :
    Number.isHexDigit c = true := by
  simp only [Number.isBinaryDigit, Bool.or_eq_true, beq_iff_eq] at digit
  rcases digit with rfl | rfl <;> decide

/-- Whether a number literal may hold the character, or look ahead for it. -/
def Number.isPart (c : Char) : Bool :=
  isHexDigit c || c ∈ ['_', '.', '+', '-', 'x', 'X', 'o', 'O', 'p', 'P']

theorem Number.isPart_of_isHexDigit {c : Char} (digit : isHexDigit c = true) :
    isPart c = true := by
  simp [isPart, digit]

theorem asked_isPart : Asked Number.isPart := by
  intro c inert
  rw [Bool.eq_false_iff]
  intro part
  rcases (by simpa only [Number.isPart, Bool.or_eq_true, decide_eq_true_eq] using part :
    Number.isHexDigit c = true ∨ c ∈ ['_', '.', '+', '-', 'x', 'X', 'o', 'O', 'p', 'P'])
    with digit | sign
  · have range := toNat_of_isHexDigit digit
    rcases (isInert_iff.1 inert).1 with outside | bracket
    · omega
    · simp only [List.mem_cons, List.not_mem_nil, or_false] at bracket
      rcases bracket with rfl | rfl | rfl <;> simp at range
  · have none_inert : ∀ d ∈ ['_', '.', '+', '-', 'x', 'X', 'o', 'O', 'p', 'P'],
        isInert d = false := forall_mem_of_all (by decide)
    exact ne_of_isInert inert (none_inert c sign) rfl

theorem asked_isOperatorChar : Asked isOperatorChar := by
  intro c inert
  rw [Bool.eq_false_iff]
  intro operator
  have none_inert : ∀ d ∈ ['+', '-', '*', '/', '%', '=', '<', '>', '!', '&', '|', '^', '~', '?'],
      isInert d = false := forall_mem_of_all (by decide)
  exact ne_of_isInert inert (none_inert c (by simpa [isOperatorChar] using operator)) rfl

/-! ## First characters of words -/

theorem startsWord_iff {c : Char} :
    startsWord c = true ↔ c = '_' ∨ c = '$' ∨ isLetter c = true := by
  simp [startsWord, or_assoc]

/-- A word goes on with whatever it may start with, a dollar sign apart. -/
theorem continuesWord_of_startsWord {c : Char} (starts : startsWord c = true) (h : c ≠ '$') :
    continuesWord c = true := by
  rcases startsWord_iff.1 starts with rfl | rfl | letter
  · decide
  · exact absurd rfl h
  · simp [continuesWord, letter]

theorem isBlank_eq_false_of_startsWord {c : Char} (starts : startsWord c = true) :
    isBlank c = false := by
  rcases startsWord_iff.1 starts with rfl | rfl | letter
  · decide
  · decide
  · exact isBlank_eq_false_of_isLetter letter

theorem isDigit_eq_false_of_startsWord {c : Char} (starts : startsWord c = true) :
    Text.isDigit c = false := by
  rcases startsWord_iff.1 starts with rfl | rfl | letter
  · decide
  · decide
  · rw [Bool.eq_false_iff]
    intro digit
    have above := lt_toNat_of_isLetter letter
    simp only [Text.isDigit, Bool.and_eq_true, decide_eq_true_eq, Char.le_def,
      UInt32.le_iff_toNat_le] at digit
    have below : c.toNat ≤ 57 := digit.2
    omega

theorem ne_of_startsWord {c d : Char} (starts : startsWord c = true)
    (other : startsWord d = false) : c ≠ d := by
  rintro rfl
  simp [starts] at other

theorem isOperatorChar_eq_false_of_startsWord {c : Char} (starts : startsWord c = true) :
    isOperatorChar c = false := by
  rw [Bool.eq_false_iff]
  intro operator
  have none : ∀ d ∈ ['+', '-', '*', '/', '%', '=', '<', '>', '!', '&', '|', '^', '~', '?'],
      startsWord d = false := forall_mem_of_all (by decide)
  exact ne_of_startsWord starts (none c (by simpa [isOperatorChar] using operator)) rfl

/-- Whatever starts a word starts nothing else. -/
theorem Form.ofStart_of_startsWord {c : Char} (starts : startsWord c = true) (cs : Text) :
    Form.ofStart c cs = .word := by
  have noOperator := isOperatorChar_eq_false_of_startsWord starts
  have noPunctuation : isPunctuation c = false := by
    rw [Bool.eq_false_iff]
    intro mark
    have none : ∀ d ∈ ['(', ')', '[', ']', '{', '}', ',', ';', ':', '.', '@', '#'],
        startsWord d = false := forall_mem_of_all (by decide)
    exact ne_of_startsWord starts (none c (by simpa [isPunctuation] using mark)) rfl
  have quote : c ≠ '"' := ne_of_startsWord starts (by decide)
  have pound : c ≠ '#' := ne_of_startsWord starts (by decide)
  have slash : c ≠ '/' := ne_of_startsWord starts (by decide)
  have backslash : c ≠ '\\' := ne_of_startsWord starts (by decide)
  have escape : c ≠ backtick := ne_of_startsWord starts (by decide)
  simp [Form.ofStart, quote, pound, slash, backslash, escape, noOperator, noPunctuation,
    isBlank_eq_false_of_startsWord starts, isDigit_eq_false_of_startsWord starts, starts]

/-! ## First characters of numbers -/

theorem isBlank_eq_false_of_isDigit {c : Char} (digit : Text.isDigit c = true) :
    isBlank c = false := by
  rw [Bool.eq_false_iff]
  intro blank
  obtain ⟨r, member, low, high⟩ := Text.CodeRanges.exists_of_coversCode blank
  have apart : ∀ r ∈ Text.blankRanges, r.2 < 48 ∨ 57 < r.1 := by decide
  simp only [Text.isDigit, Bool.and_eq_true, decide_eq_true_eq, Char.le_def,
    UInt32.le_iff_toNat_le] at digit
  have above : 48 ≤ c.toNat := digit.1
  have below : c.toNat ≤ 57 := digit.2
  have := apart r member
  omega

/-- A number starts with a digit, whatever follows. -/
theorem Form.ofStart_of_isDigit {c : Char} (digit : Text.isDigit c = true) (cs : Text) :
    Form.ofStart c cs = .number := by
  have other {d : Char} (noDigit : Text.isDigit d = false) : c ≠ d := by
    rintro rfl
    simp [digit] at noDigit
  have quote : c ≠ '"' := other (by decide)
  have pound : c ≠ '#' := other (by decide)
  have slash : c ≠ '/' := other (by decide)
  simp [Form.ofStart, quote, pound, slash, digit, isBlank_eq_false_of_isDigit digit]

/-! ## Directional controls -/

open Markup (isControl)

theorem mem_controls {c : Char} : isControl c = true ↔ c ∈ Markup.controls := by
  simp [isControl]

theorem isInert_of_isControl {c : Char} (control : isControl c = true) : isInert c = true := by
  have each : ∀ d ∈ Markup.controls, isInert d = true := forall_mem_of_all (by decide)
  exact each c (mem_controls.1 control)

theorem isNewline_eq_false_of_isControl {c : Char} (control : isControl c = true) :
    isNewline c = false := by
  have each : ∀ d ∈ Markup.controls, isNewline d = false := forall_mem_of_all (by decide)
  exact each c (mem_controls.1 control)

/-- No word goes on with a control. -/
theorem continuesWord_eq_false_of_isControl {c : Char} (control : isControl c = true) :
    continuesWord c = false := by
  have each : ∀ d ∈ Markup.controls, continuesWord d = false :=
    forall_mem_of_all (by decide +kernel)
  exact each c (mem_controls.1 control)

theorem isControl_eq_false_of_continuesWord {c : Char} (goesOn : continuesWord c = true) :
    isControl c = false := by
  rw [Bool.eq_false_iff]
  intro control
  simp [continuesWord_eq_false_of_isControl control] at goesOn

theorem startsWord_eq_false_of_isControl {c : Char} (control : isControl c = true) :
    startsWord c = false := by
  have each : ∀ d ∈ Markup.controls, startsWord d = false := forall_mem_of_all (by decide +kernel)
  exact each c (mem_controls.1 control)

/-- A control is a stray character wherever it stands in code. -/
theorem Form.ofStart_of_isControl {c : Char} (control : isControl c = true) (cs : Text) :
    Form.ofStart c cs = .stray := by
  have plain : ∀ d ∈ Markup.controls, d ≠ '"' ∧ d ≠ '#' ∧ d ≠ '/' ∧ isBlank d = false ∧
      Text.isDigit d = false ∧ d ≠ '\\' ∧ isOperatorChar d = false ∧
      isPunctuation d = false ∧ d ≠ backtick := forall_mem_of_all (by decide)
  obtain ⟨quote, pound, slash, blank, digit, backslash, operator, mark, escape⟩ :=
    plain c (mem_controls.1 control)
  simp [Form.ofStart, quote, pound, slash, blank, digit, backslash, operator, mark, escape,
    startsWord_eq_false_of_isControl control]

/-! ## Words -/

theorem isWord_cons {c : Char} {cs : Text} :
    isWord (c :: cs) = true ↔ startsWord c = true ∧ ∀ d ∈ cs, continuesWord d = true := by
  simp [isWord]

theorem isWord_ne_nil {word : Text} (h : isWord word = true) : word ≠ [] := by
  rintro rfl
  simp [isWord] at h

theorem isWord_head?_ne {word : Text} (h : isWord word = true) : word.head? ≠ some backtick := by
  cases word with
  | nil => simp
  | cons c cs =>
    have starts := (isWord_cons.1 h).1
    intro escaped
    obtain rfl : c = backtick := by simpa using escaped
    exact absurd starts (by decide)

/-- A word has no directional control in it. -/
theorem isControl_eq_false_of_mem_word {word : Text} (h : isWord word = true) :
    ∀ c ∈ word, isControl c = false := by
  cases word with
  | nil => simp
  | cons c cs =>
    obtain ⟨starts, goOn⟩ := isWord_cons.1 h
    intro d member
    rcases List.mem_cons.1 member with rfl | member
    · rw [Bool.eq_false_iff]
      intro control
      simp [startsWord_eq_false_of_isControl control] at starts
    · exact isControl_eq_false_of_continuesWord (goOn d member)

end Diglot
