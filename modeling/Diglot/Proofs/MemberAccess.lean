import Diglot.Proofs.LexemeShapes
import Diglot.Token

/-!
# Members of number literals

A point behind a number literal joins it only if a digit follows, so that `1.description` is a
literal, a point and a word. The digits of a hexadecimal literal are letters too, and a literal that
has neither fraction nor exponent takes the first letters of a member's name if they are such
digits: `0xff.description` begins with the literal `0xff.de`. That is the only exception
(`member_access_iff`).
-/

set_option autoImplicit false

namespace Diglot

namespace Number

open Text (isDigit)

variable {digit mark : Char → Bool} {taken cs : Text} {c : Char}

/-! ## A point behind a number -/

/-- Digits that stop where a text ends, or within it, stop there with a point behind it too. -/
theorem stops_before_point (noDigit : digit '.' = false) {text : Text}
    (stops : ∀ d ∈ text.head?, (d == '_' || digit d) = false) (cs : Text) :
    ∀ d ∈ (text ++ '.' :: cs).head?, (d == '_' || digit d) = false := by
  cases text with
  | nil => simp [noDigit]
  | cons t ts => exact stops

theorem exponent_point (noMark : mark '.' = false) (cs : Text) :
    exponent mark ('.' :: cs) = Cut.nothing ('.' :: cs) := by
  rcases exponent_cons mark '.' cs with ⟨_, _, _, marked, -⟩ | ⟨-, nothing⟩
  · simp [noMark] at marked
  · exact nothing

theorem IsExponent.head?_ne_point (noMark : mark '.' = false) (isExponent : IsExponent mark taken)
    (more : Text) : (taken ++ more).head? ≠ some '.' := by
  obtain ⟨m, signs, d, ds, rfl, marked, -⟩ := isExponent
  intro point
  obtain rfl : m = '.' := by simpa using point
  simp [noMark] at marked

/-- A number that ends with its text also ends before a point, unless it is made of digits alone and
a digit follows the point. -/
theorem real_point_iff (noDigit : digit '.' = false) (noMark : mark '.' = false)
    (alone : real digit mark (taken ++ []) = ⟨taken, []⟩) :
    real digit mark (taken ++ '.' :: c :: cs) = ⟨taken, '.' :: c :: cs⟩ ↔
      ¬((∀ d ∈ taken, (d == '_' || digit d) = true) ∧ digit c = true) := by
  constructor
  · rintro cut ⟨digits, next⟩
    obtain ⟨whole, point, power, rfl, counted, fraction, -⟩ := real_eq_iff.1 cut
    -- the digits are taken to the last, so that the fraction and the exponent are empty
    have stops := (Cut.span_eq_iff.1 counted).2
    rw [← List.append_assoc point] at stops
    obtain ⟨rfl, rfl⟩ : point = [] ∧ power = [] := by
      rw [← List.append_eq_nil_iff]
      cases behind : point ++ power with
      | nil => rfl
      | cons d ds =>
        have inside := digits d (List.mem_append_right whole (by simp [behind]))
        have stopped := stops d (by simp [behind])
        simp [inside] at stopped
    rcases fraction_eq_iff.1 fraction with ⟨-, noFraction⟩ | ⟨_, _, ⟨⟩, -⟩
    simp [noFraction c cs rfl] at next
  · intro apart
    obtain ⟨whole, point, power, rfl, counted, fraction, exponent⟩ := real_eq_iff.1 alone
    obtain ⟨digits, stops⟩ := Cut.span_eq_iff.1 counted
    rw [← List.append_assoc, List.append_nil] at stops
    rw [fraction_eq_iff] at fraction
    rw [exponent_eq_iff] at exponent
    refine real_eq_iff.2 ⟨whole, point, power, rfl, ?_, ?_, ?_⟩
    · refine Cut.span_eq_iff.2 ⟨digits, ?_⟩
      rw [← List.append_assoc]
      exact stops_before_point noDigit stops _
    · rw [fraction_eq_iff]
      rcases fraction with ⟨rfl, -⟩ | ⟨d, ds, rfl, isDigit, more⟩
      · refine .inl ⟨rfl, fun d tail same => ?_⟩
        rcases exponent with ⟨rfl, -⟩ | ⟨isExponent, -⟩
        · obtain ⟨rfl, -⟩ : c = d ∧ cs = tail := by simpa using same
          rw [Bool.eq_false_iff]
          exact fun next => apart ⟨by simpa using digits, next⟩
        · exact absurd (by rw [same]; rfl) (isExponent.head?_ne_point noMark ('.' :: c :: cs))
      · obtain ⟨inside, ends⟩ := Cut.span_eq_iff.1 more
        rw [List.append_nil] at ends
        exact .inr ⟨d, ds, rfl, isDigit,
          Cut.span_eq_iff.2 ⟨inside, stops_before_point noDigit ends _⟩⟩
    · rw [exponent_eq_iff]
      refine exponent.imp (fun ⟨empty, _⟩ => ⟨empty, exponent_point noMark _⟩) ?_
      rintro ⟨isExponent, ends⟩
      exact ⟨isExponent, stops_before_point (by decide) ends _⟩

def isBareHex : Text → Bool
  | zero :: base :: ds =>
    zero == '0' && (base == 'x' || base == 'X') && ds.all fun d => d == '_' || isHexDigit d
  | _ => false

theorem isBareHex_cons {first base : Char} {ds : Text} :
    isBareHex (first :: base :: ds) = true ↔
      (first = '0' ∧ (base = 'x' ∨ base = 'X')) ∧
        ∀ d ∈ ds, (d == '_' || isHexDigit d) = true := by
  simp [isBareHex, and_assoc]

/-- Digits end before a point. -/
theorem digits_point (noDigit : digit '.' = false)
    (alone : digits digit (taken ++ []) = ⟨taken, []⟩) (cs : Text) :
    digits digit (taken ++ '.' :: cs) = ⟨taken, '.' :: cs⟩ :=
  Cut.span_eq_iff.2 ⟨(Cut.span_eq_iff.1 alone).1, by simp [noDigit]⟩

/-- A literal that ends with its text also ends before a point with a letter behind it, unless the
letter is a hexadecimal digit and could go on with the literal. -/
theorem tail_point_iff {first : Char} (noDigit : isDigit c = false)
    (alone : tail first (taken ++ []) = ⟨taken, []⟩) (cs : Text) :
    tail first (taken ++ '.' :: c :: cs) = ⟨taken, '.' :: c :: cs⟩ ↔
      ¬(isBareHex (first :: taken) = true ∧ isHexDigit c = true) := by
  cases taken with
  | nil =>
    have decimal : real isDigit isDecimalMark ([] ++ '.' :: c :: cs) = ⟨[], '.' :: c :: cs⟩ ↔ _ :=
      real_point_iff (by decide) (by decide) rfl
    simpa [tail, isBareHex, noDigit] using decimal
  | cons base ds =>
    rw [isBareHex_cons]
    rw [List.cons_append] at alone ⊢
    rcases tail_cons_cases first base with
      ⟨hex, -, cut⟩ | ⟨noHex, ⟨-, digit, isHex, cut⟩ | decimal⟩
    · rw [cut, Cut.after_cons_eq] at alone ⊢
      simp only [hex, true_and]
      exact real_point_iff (by decide) (by decide) alone
    · rw [cut, Cut.after_cons_eq] at alone ⊢
      have noPoint : digit '.' = false :=
        Bool.eq_false_iff.2 fun isDigit => absurd (isHex '.' isDigit) (by decide)
      simp only [noHex, false_and, not_false_eq_true, iff_true]
      exact digits_point noPoint alone _
    · rw [decimal, ← List.cons_append] at alone ⊢
      simp only [noHex, false_and, not_false_eq_true, iff_true]
      rw [real_point_iff (by decide) (by decide) alone]
      simp [noDigit]

end Number

/-! ## Literal, point and word -/

variable {localized : Bool} {depths : List Nat}

theorem lexemesFrom_number {first : Char} (digit : Text.isDigit first = true) (cs : Text) :
    lexemesFrom localized (.code depths) (first :: cs) =
      ⟨.numberLiteral, first :: (Number.tail first cs).taken⟩ ::
        lexemesFrom localized (.code depths) (Number.tail first cs).rest := by
  rw [lexemesFrom_cons]
  simp only [step, codeStep, Form.ofStart_of_isDigit digit]
  rfl

/-- A text that is one number literal starts with a digit, and the literal ends with the text. -/
theorem number_of_alone {number : Text}
    (alone : (scan localized number).map (·.lexeme.kind) = [.numberLiteral]) :
    ∃ first taken, number = first :: taken ∧ Text.isDigit first = true ∧
      Number.tail first (taken ++ []) = ⟨taken, []⟩ := by
  have kinds : (lexemes localized number).map Lexeme.kind = [.numberLiteral] := by
    rw [← map_lexeme_scan, List.map_map]
    exact alone
  rw [lexemes, Context.top] at kinds
  cases number with
  | nil => simp at kinds
  | cons first cs =>
    have digit : Text.isDigit first = true := by
      rw [lexemesFrom_cons] at kinds
      have form : Form.ofStart first cs = .number := form_of_number (List.cons.inj kinds).1
      have begins := Form.begins first cs
      rwa [form] at begins
    have rest : lexemesFrom localized (.code []) (Number.tail first cs).rest = [] := by
      rw [lexemesFrom_number digit] at kinds
      simpa using kinds
    have ended : (Number.tail first cs).rest = [] := by
      rw [← concat_lexemesFrom localized (.code []) (Number.tail first cs).rest, rest]
      rfl
    have whole := Number.whole_tail first cs
    rw [Cut.whole, ended, List.append_nil] at whole
    refine ⟨first, cs, rfl, digit, ?_⟩
    rw [List.append_nil]
    change Cut.mk (Number.tail first cs).taken (Number.tail first cs).rest = _
    rw [whole, ended]

/-- A number literal, a point and a word are read as such, unless the literal is hexadecimal without
fraction and exponent and the word starts with a hexadecimal digit. -/
theorem member_access_iff (localized : Bool) (number word : Text)
    (alone : (scan localized number).map (·.lexeme.kind) = [.numberLiteral])
    (isWord : isWord word = true) :
    scan localized (number ++ '.' :: word) =
        Token.place 0 [⟨.numberLiteral, number⟩, ⟨.punctuation, ['.']⟩, ⟨wordKind word, word⟩] ↔
      ¬(Number.isBareHex number = true ∧ ∀ c ∈ word.head?, Number.isHexDigit c = true) := by
  obtain ⟨first, taken, rfl, digit, ends⟩ := number_of_alone alone
  obtain ⟨c, cs, rfl⟩ := List.exists_cons_of_ne_nil (isWord_ne_nil isWord)
  have noDigit := isDigit_eq_false_of_startsWord (isWord_cons.1 isWord).1
  have joined : (∀ d ∈ (c :: cs).head?, Number.isHexDigit d = true) ↔
      Number.isHexDigit c = true := by simp
  rw [joined, ← Number.tail_point_iff noDigit ends cs, scan, Token.place_inj, lexemes,
    Context.top, List.cons_append, lexemesFrom_number digit]
  constructor
  · intro same
    have whole := Number.whole_tail first (taken ++ '.' :: c :: cs)
    generalize Number.tail first (taken ++ '.' :: c :: cs) = cut at same whole ⊢
    obtain rfl : cut.taken = taken := by simpa using (List.cons.inj same).1
    rw [Cut.whole, List.append_cancel_left_eq] at whole
    rw [← whole]
  · intro cut
    rw [cut, lexemesFrom_mark (by decide) (by decide)]
    exact congrArg (⟨.numberLiteral, first :: taken⟩ :: ⟨.punctuation, ['.']⟩ :: ·)
      (lexemes_word isWord localized)

/-- A literal with a fraction, before a word of hexadecimal digits. -/
theorem member_access_fraction :
    let number := "0x1.8p3".toList
    let word := "abc".toList
    (scan false number).map (·.lexeme.kind) = [.numberLiteral] ∧ isWord word = true ∧
      scan false (number ++ '.' :: word) =
        Token.place 0 [⟨.numberLiteral, number⟩, ⟨.punctuation, ['.']⟩, ⟨.identifier, word⟩] := by
  have alone : (scan false "0x1.8p3".toList).map (·.lexeme.kind) = [.numberLiteral] := by
    decide +kernel
  have word : isWord "abc".toList = true := by decide
  exact ⟨alone, word, (member_access_iff false _ _ alone word).2 (by decide)⟩

/-- The first letters of `description` are hexadecimal digits and are taken with the point. -/
theorem member_access_hex :
    let number := "0xff".toList
    let word := "description".toList
    (scan false number).map (·.lexeme.kind) = [.numberLiteral] ∧ isWord word = true ∧
      word.head?.any Text.isLetter = true ∧
      (scan false (number ++ '.' :: word)).map Token.lexeme =
        [⟨.numberLiteral, "0xff.de".toList⟩, ⟨.identifier, "scription".toList⟩] ∧
      (scan false (number ++ '.' :: word)).map Token.lexeme ≠
        [⟨.numberLiteral, number⟩, ⟨.punctuation, ['.']⟩, ⟨wordKind word, word⟩] := by
  decide +kernel

end Diglot
