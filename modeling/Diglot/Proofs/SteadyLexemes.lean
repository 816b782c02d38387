import Diglot.Proofs.Resumption

/-!
# Steady lexemes

Number literals, operators and comments end at the same place whichever of two texts that go on
alike follows them, and so does the form of a lexeme, which is judged by its first characters.
-/

set_option autoImplicit false

namespace Diglot

open Text (isBlank isDigit isNewline)

variable {parts : Text → Text → Prop}

/-! ## Number literals -/

namespace Number

/-- A class of characters that number literals are made of. -/
def Constituent (p : Char → Bool) : Prop :=
  ∀ c, p c = true → isPart c = true

theorem constituent_of_isHexDigit {digit : Char → Bool}
    (hex : ∀ d, digit d = true → isHexDigit d = true) : Constituent digit :=
  fun d isDigit => isPart_of_isHexDigit (hex d isDigit)

theorem constituent_isHexDigit : Constituent isHexDigit :=
  constituent_of_isHexDigit fun _ digit => digit

theorem constituent_isDigit : Constituent isDigit :=
  constituent_of_isHexDigit fun _ => isHexDigit_of_isDigit

/-- A class of one or another constituent. -/
theorem constituent_pair {a b : Char} (first : isPart a = true) (second : isPart b = true) :
    Constituent fun c => c == a || c == b := by
  intro c member
  rcases (by simpa using member : c = a ∨ c = b) with rfl | rfl
  · exact first
  · exact second

theorem constituent_isSign : Constituent isSign := constituent_pair (by decide) (by decide)

theorem constituent_isDecimalMark : Constituent isDecimalMark :=
  constituent_pair (by decide) (by decide)

theorem constituent_isBinaryMark : Constituent isBinaryMark :=
  constituent_pair (by decide) (by decide)

theorem Constituent.isDigits {digit : Char → Bool} (part : Constituent digit) :
    Constituent fun c => c == '_' || digit c := by
  intro c member
  rcases (by simpa using member : c = '_' ∨ digit c = true) with rfl | isDigit
  · decide
  · exact part c isDigit

/-- What a number literal could go on with before `other`, it could go on with before `rest`: the
next character and, behind a point, the one after it. -/
structure Sees (rest other : Text) : Prop where
  part : ∀ c ∈ other.head?, isPart c = true → rest.head? = some c
  point : other.head? = some '.' → ∀ d ∈ other.tail.head?, isPart d = true →
    rest.tail.head? = some d

variable {rest other : Text}

theorem Sees.cons (sees : Sees rest other) (c : Char) : Sees (c :: rest) (c :: other) :=
  ⟨fun _ next _ => next, fun _ => sees.part⟩

theorem Sees.append (sees : Sees rest other) (front : Text) :
    Sees (front ++ rest) (front ++ other) := by
  induction front with
  | nil => exact sees
  | cons c front ih => exact ih.cons c

theorem sees_of_resumes (without : PartingWithout isPart parts)
    (resumes : Resumes parts rest other) : Sees rest other := by
  induction resumes with
  | ended => exact ⟨by simp, by simp⟩
  | parted apart =>
    constructor
    · intro c next member
      simp [without apart c next] at member
    · intro point
      have member := without apart '.' point
      exact absurd member (by decide)
  | shared c _ ih => exact ih.cons c

theorem keeps_digits (sees : Sees rest other) {digit : Char → Bool} (part : Constituent digit) :
    Keeps (digits digit) rest other := by
  apply Keeps.span
  intro stopped c next
  rw [Bool.eq_false_iff]
  intro member
  have stops := stopped c (sees.part c next (part.isDigits c member))
  simp [stops] at member

/-- Digits that begin with a digit are not empty. -/
theorem digits_of_digit {digit : Char → Bool} {d : Char} {cs taken rest : Text}
    (isDigit : digit d = true) (cut : digits digit (d :: cs) = ⟨taken, rest⟩) :
    ∃ ds, taken = d :: ds ∧ cs = ds ++ rest := by
  have whole := whole_digits digit (d :: cs)
  rw [cut, Cut.whole] at whole
  cases taken with
  | nil =>
    rw [List.nil_append] at whole
    subst whole
    have cut : Cut.span _ ([] ++ d :: cs) = ⟨[], d :: cs⟩ := cut
    have stopped := (Cut.span_eq_iff.1 cut).2 d rfl
    simp [isDigit] at stopped
  | cons t ts =>
    obtain ⟨rfl, rest⟩ := List.cons.inj whole
    exact ⟨ts, rfl, rest.symm⟩

/-- A fraction is empty, where no point with a digit stands, or a point and digits. -/
theorem fraction_eq_iff {digit : Char → Bool} {taken rest : Text} :
    fraction digit (taken ++ rest) = ⟨taken, rest⟩ ↔
      (taken = [] ∧ ∀ d cs, rest = '.' :: d :: cs → digit d = false) ∨
      ∃ d ds, taken = '.' :: d :: ds ∧ digit d = true ∧
        digits digit (d :: ds ++ rest) = ⟨d :: ds, rest⟩ := by
  rw [fraction.eq_def]
  split
  · next d cs input =>
    cases isDigit : digit d with
    | true =>
      simp only [if_true]
      constructor
      · intro cut
        cases taken with
        | nil => simp [Cut.after] at cut
        | cons t ts =>
          obtain ⟨rfl, tail⟩ := List.cons.inj input
          rw [Cut.after_cons_eq] at cut
          obtain ⟨ds, rfl, -⟩ := digits_of_digit isDigit cut
          have tail : d :: ds ++ rest = d :: cs := tail
          exact .inr ⟨d, ds, rfl, isDigit, by rw [tail, cut]⟩
      · rintro (⟨rfl, noPoint⟩ | ⟨e, es, rfl, -, cut⟩)
        · simp [noPoint d cs input] at isDigit
        · obtain ⟨-, tail⟩ := List.cons.inj input
          rw [Cut.after_cons_eq, ← tail]
          exact cut
    | false =>
      simp only [Bool.false_eq_true, if_false, ← input, Cut.nothing_eq]
      constructor
      · rintro rfl
        refine .inl ⟨rfl, fun e es same => ?_⟩
        simp_all
      · rintro (⟨rfl, -⟩ | ⟨e, es, rfl, digitE, -⟩)
        · rfl
        · simp_all
  · next noPoint =>
    rw [Cut.nothing_eq]
    constructor
    · rintro rfl
      exact .inl ⟨rfl, fun d cs same => absurd same (noPoint d cs)⟩
    · rintro (⟨rfl, -⟩ | ⟨e, es, rfl, -, -⟩)
      · rfl
      · exact absurd rfl (noPoint e (es ++ rest))

theorem keeps_fraction (sees : Sees rest other) {digit : Char → Bool} (part : Constituent digit) :
    Keeps (fraction digit) rest other := by
  intro taken before
  rw [fraction_eq_iff] at before ⊢
  rcases before with ⟨rfl, noPoint⟩ | ⟨d, ds, rfl, isDigit, cut⟩
  · refine .inl ⟨rfl, fun d cs same => Bool.eq_false_iff.2 fun isDigit => ?_⟩
    subst same
    obtain ⟨tail, rfl⟩ := List.head?_eq_some_iff.1 (sees.part '.' rfl (by decide))
    obtain ⟨more, rfl⟩ := List.head?_eq_some_iff.1 (sees.point rfl d rfl (part d isDigit))
    simp [noPoint d more rfl] at isDigit
  · exact .inr ⟨d, ds, rfl, isDigit, keeps_digits sees part cut⟩

theorem sign_eq_iff {taken rest : Text} :
    sign (taken ++ rest) = ⟨taken, rest⟩ ↔
      (taken = [] ∧ ∀ c ∈ rest.head?, isSign c = false) ∨ ∃ s, taken = [s] ∧ isSign s = true := by
  cases taken with
  | nil =>
    cases rest with
    | nil => simp [sign, Cut.nothing]
    | cons c cs => cases signed : isSign c <;> simp [sign, signed, Cut.nothing]
  | cons t ts =>
    cases signed : isSign t with
    | false => simp [sign, signed, Cut.nothing]
    | true =>
      simp only [List.cons_append, sign, signed, if_true, Cut.mk.injEq, List.cons.injEq]
      constructor
      · rintro ⟨⟨-, rfl⟩, -⟩
        exact .inr ⟨t, ⟨rfl, rfl⟩, signed⟩
      · rintro (⟨⟨⟩, -⟩ | ⟨s, ⟨rfl, rfl⟩, -⟩)
        exact ⟨⟨trivial, rfl⟩, rfl⟩

theorem isSign_eq_false_of_isDigit {c : Char} (digit : isDigit c = true) : isSign c = false := by
  rw [Bool.eq_false_iff]
  intro signed
  rcases (by simpa [isSign] using signed : c = '+' ∨ c = '-') with rfl | rfl <;>
    exact absurd digit (by decide)

/-- A digit after the place of a sign stands there in both texts. -/
theorem sign_rest_of_resumes (without : PartingWithout isPart parts) {rest other ds : Text}
    {d : Char} (resumes : Resumes parts rest other) (isDigit : isDigit d = true)
    (next : (sign other).rest = d :: ds) : ∃ es, (sign rest).rest = d :: es := by
  have digitPart := constituent_isDigit d isDigit
  cases other with
  | nil => simp [sign, Cut.nothing] at next
  | cons c cs =>
    rw [sign] at next
    split at next
    · next signed =>
      obtain ⟨tail, rfl, afterSign⟩ :=
        resumes.cons_of_without without (constituent_isSign c signed)
      obtain rfl : cs = d :: ds := next
      obtain ⟨more, rfl, -⟩ := afterSign.cons_of_without without digitPart
      exact ⟨more, by simp [sign, signed]⟩
    · next unsigned =>
      obtain ⟨rfl, -⟩ := List.cons.inj (next : c :: cs = d :: ds)
      obtain ⟨tail, rfl, -⟩ := resumes.cons_of_without without digitPart
      exact ⟨tail, by simp [sign, unsigned, Cut.nothing]⟩

/-- An exponent is there exactly if a mark is followed by a digit, perhaps after a sign. -/
theorem exponent_cons (mark : Char → Bool) (m : Char) (cs : Text) :
    (∃ d ds, (sign cs).rest = d :: ds ∧ mark m = true ∧ isDigit d = true ∧
        exponent mark (m :: cs) = ((sign cs).andThen (digits isDigit)).after [m]) ∨
      ((∀ d ds, (sign cs).rest = d :: ds → mark m = true → isDigit d = false) ∧
        exponent mark (m :: cs) = Cut.nothing (m :: cs)) := by
  rw [exponent]
  split
  · next d ds next =>
    split
    · next both =>
      obtain ⟨marked, isDigit⟩ := Bool.and_eq_true_iff.1 both
      exact .inl ⟨d, ds, next, marked, isDigit, rfl⟩
    · next neither =>
      refine .inr ⟨fun e es same marked => ?_, rfl⟩
      obtain ⟨rfl, -⟩ := List.cons.inj (next.symm.trans same)
      simpa [marked] using neither
  · next none =>
    refine .inr ⟨fun e es same _ => ?_, rfl⟩
    simp [none] at same

/-- The form of an exponent: a mark, perhaps a sign, and a digit with more digits behind it. -/
def IsExponent (mark : Char → Bool) (text : Text) : Prop :=
  ∃ m signs d ds, text = m :: (signs ++ d :: ds) ∧ mark m = true ∧
    (signs = [] ∨ ∃ s, signs = [s] ∧ isSign s = true) ∧ isDigit d = true ∧
    ∀ c ∈ ds, (c == '_' || isDigit c) = true

/-- An exponent is empty, where none begins, or it is of that form and no digit follows. -/
theorem exponent_eq_iff {mark : Char → Bool} {taken rest : Text} :
    exponent mark (taken ++ rest) = ⟨taken, rest⟩ ↔
      (taken = [] ∧ exponent mark rest = Cut.nothing rest) ∨
        IsExponent mark taken ∧ ∀ c ∈ rest.head?, (c == '_' || isDigit c) = false := by
  constructor
  · intro cut
    cases taken with
    | nil => exact .inl ⟨rfl, cut⟩
    | cons m ts =>
      rw [List.cons_append] at cut
      rcases exponent_cons mark m (ts ++ rest) with
        ⟨d, tail, next, marked, isDigit, same⟩ | ⟨-, same⟩
      · rw [same, Cut.after_cons_eq] at cut
        obtain ⟨signs, back, rfl, signed, counted⟩ :=
          (Cut.andThen_eq_iff sign (whole_digits _)).1 cut
        rw [List.append_assoc, signed] at next
        have next : back ++ rest = d :: tail := next
        rw [next] at counted
        obtain ⟨ds, rfl, rfl⟩ := digits_of_digit isDigit counted
        have counted : digits Text.isDigit (d :: ds ++ rest) = ⟨d :: ds, rest⟩ := counted
        obtain ⟨inside, stops⟩ := Cut.span_eq_iff.1 counted
        refine .inr ⟨⟨m, signs, d, ds, rfl, marked, ?_, isDigit,
          (List.forall_mem_cons.1 inside).2⟩, stops⟩
        exact (sign_eq_iff.1 signed).imp And.left id
      · rw [same] at cut
        simp [Cut.nothing] at cut
  · rintro (⟨rfl, none⟩ | ⟨⟨m, signs, d, ds, rfl, marked, form, isDigit, inside⟩, stops⟩)
    · exact none
    · have signed : sign (signs ++ (d :: ds ++ rest)) = ⟨signs, d :: ds ++ rest⟩ := by
        rw [sign_eq_iff]
        refine form.imp (fun none => ⟨none, ?_⟩) id
        simpa using isSign_eq_false_of_isDigit isDigit
      have counted : digits Text.isDigit (d :: ds ++ rest) = ⟨d :: ds, rest⟩ :=
        Cut.span_eq_iff.2 ⟨List.forall_mem_cons.2 ⟨by simp [isDigit], inside⟩, stops⟩
      rw [List.cons_append]
      rcases exponent_cons mark m (signs ++ d :: ds ++ rest) with ⟨_, _, _, _, _, cut⟩ | ⟨none, -⟩
      · rw [cut, Cut.after_cons_eq]
        exact (Cut.andThen_eq_iff sign (whole_digits _)).2 ⟨signs, d :: ds, rfl, signed, counted⟩
      · rw [List.append_assoc, signed] at none
        simp [none d (ds ++ rest) rfl marked] at isDigit

/-- An exponent is kept if none begins before the second text where none begins before the first. -/
theorem keeps_exponent (sees : Sees rest other) {mark : Char → Bool}
    (none : exponent mark rest = Cut.nothing rest → exponent mark other = Cut.nothing other) :
    Keeps (exponent mark) rest other := by
  intro taken before
  rw [exponent_eq_iff] at before ⊢
  refine before.imp (fun ⟨empty, noneBefore⟩ => ⟨empty, none noneBefore⟩) ?_
  rintro ⟨isExponent, stops⟩
  have stopped : digits isDigit ([] ++ rest) = ⟨[], rest⟩ := Cut.span_eq_iff.2 ⟨by simp, stops⟩
  have kept := keeps_digits sees constituent_isDigit stopped
  exact ⟨isExponent, (Cut.span_eq_iff.1 kept).2⟩

/-- A mark and a digit in the second text would stand in the first text too. -/
theorem keeps_exponent_of_resumes (without : PartingWithout isPart parts) {mark : Char → Bool}
    (part : Constituent mark) (resumes : Resumes parts rest other) :
    Keeps (exponent mark) rest other := by
  apply keeps_exponent (sees_of_resumes without resumes)
  intro before
  cases other with
  | nil => rfl
  | cons m cs =>
    rcases exponent_cons mark m cs with ⟨d, ds, next, marked, isDigit, -⟩ | ⟨-, nothing⟩
    · obtain ⟨tail, rfl, afterMark⟩ := resumes.cons_of_without without (part m marked)
      obtain ⟨es, there⟩ := sign_rest_of_resumes without afterMark isDigit next
      rcases exponent_cons mark m tail with ⟨_, _, _, _, _, taken⟩ | ⟨none, -⟩
      · simp [taken, Cut.after, Cut.nothing] at before
      · simp [none d es there marked] at isDigit
    · exact nothing

/-- A number is its digits, its fraction and its exponent. -/
theorem real_eq_iff {digit mark : Char → Bool} {taken rest : Text} :
    real digit mark (taken ++ rest) = ⟨taken, rest⟩ ↔
      ∃ whole point power, taken = whole ++ (point ++ power) ∧
        digits digit (whole ++ (point ++ (power ++ rest))) = ⟨whole, point ++ (power ++ rest)⟩ ∧
        fraction digit (point ++ (power ++ rest)) = ⟨point, power ++ rest⟩ ∧
        exponent mark (power ++ rest) = ⟨power, rest⟩ := by
  rw [real, Cut.andThen_eq_iff (fun input => (digits digit input).andThen (fraction digit))
    (whole_exponent mark)]
  constructor
  · rintro ⟨front, power, rfl, cut, exponent⟩
    obtain ⟨whole, point, rfl, digits, fraction⟩ :=
      (Cut.andThen_eq_iff _ (whole_fraction digit)).1 cut
    exact ⟨whole, point, power, by rw [List.append_assoc], digits, fraction, exponent⟩
  · rintro ⟨whole, point, power, rfl, digits, fraction, exponent⟩
    exact ⟨whole ++ point, power, by rw [List.append_assoc],
      (Cut.andThen_eq_iff _ (whole_fraction digit)).2 ⟨whole, point, rfl, digits, fraction⟩,
      exponent⟩

theorem keeps_real (sees : Sees rest other) {digit mark : Char → Bool} (part : Constituent digit)
    (ends : Keeps (exponent mark) rest other) : Keeps (real digit mark) rest other := by
  apply Keeps.andThen _ ends (whole_exponent mark)
  intro back
  have further := sees.append back
  exact Keeps.andThen (fun front => keeps_digits (further.append front) part)
    (keeps_fraction further part) (whole_fraction digit)

/-- After its first digit a number literal has the letter of a base and digits of it, or it is
decimal; the two characters settle which. Only a hexadecimal literal has a fraction behind its
base. -/
theorem tail_cons_cases (first c : Char) :
    ((first = '0' ∧ (c = 'x' ∨ c = 'X')) ∧ isPart c = true ∧
        ∀ cs, tail first (c :: cs) = (real isHexDigit isBinaryMark cs).after [c]) ∨
      ¬(first = '0' ∧ (c = 'x' ∨ c = 'X')) ∧
        ((isPart c = true ∧ ∃ digit : Char → Bool, (∀ d, digit d = true → isHexDigit d = true) ∧
            ∀ cs, tail first (c :: cs) = (digits digit cs).after [c]) ∨
          ∀ cs, tail first (c :: cs) = real isDigit isDecimalMark (c :: cs)) := by
  by_cases hex : first = '0' ∧ (c = 'x' ∨ c = 'X')
  · refine .inl ⟨hex, ?_, fun cs => by rw [tail, if_pos hex]⟩
    rcases hex.2 with rfl | rfl <;> decide
  · refine .inr ⟨hex, ?_⟩
    by_cases octal : first = '0' ∧ (c = 'o' ∨ c = 'O')
    · refine .inl ⟨?_, isOctalDigit, fun _ => isHexDigit_of_isOctalDigit,
        fun cs => by rw [tail, if_neg hex, if_pos octal]⟩
      rcases octal.2 with rfl | rfl <;> decide
    · by_cases binary : first = '0' ∧ (c = 'b' ∨ c = 'B')
      · refine .inl ⟨?_, isBinaryDigit, fun _ => isHexDigit_of_isBinaryDigit,
          fun cs => by rw [tail, if_neg hex, if_neg octal, if_pos binary]⟩
        rcases binary.2 with rfl | rfl <;> decide
      · exact .inr fun cs => by rw [tail, if_neg hex, if_neg octal, if_neg binary]

/-- A literal that is not decimal is kept from the letter of its base on. -/
theorem keeps_tail_cons_cases (sees : Sees rest other)
    (ends : Keeps (exponent isBinaryMark) rest other) (first c : Char) :
    (∃ cutter, Keeps cutter rest other ∧ isPart c = true ∧
        ∀ cs, tail first (c :: cs) = (cutter cs).after [c]) ∨
      ∀ cs, tail first (c :: cs) = real isDigit isDecimalMark (c :: cs) := by
  rcases tail_cons_cases first c with ⟨-, part, cut⟩ | ⟨-, ⟨part, digit, hex, cut⟩ | decimal⟩
  · exact .inl ⟨_, keeps_real sees constituent_isHexDigit ends, part, cut⟩
  · exact .inl ⟨_, keeps_digits sees (constituent_of_isHexDigit hex), part, cut⟩
  · exact .inr decimal

theorem keeps_tail (sees : Sees rest other) (decimal : Keeps (exponent isDecimalMark) rest other)
    (binary : Keeps (exponent isBinaryMark) rest other) (first : Char) :
    Keeps (tail first) rest other := by
  intro taken before
  have keepsDecimal := keeps_real sees constituent_isDigit decimal
  cases taken with
  | cons c ts =>
    rw [List.cons_append] at before ⊢
    rcases keeps_tail_cons_cases sees binary first c with ⟨cutter, keeps, -, cut⟩ | decimal
    · rw [cut, Cut.after_cons_eq] at before ⊢
      exact keeps before
    · rw [decimal, ← List.cons_append] at before ⊢
      exact keepsDecimal before
  | nil =>
    rw [List.nil_append] at before ⊢
    have decimalRest : real isDigit isDecimalMark ([] ++ rest) = ⟨[], rest⟩ := by
      cases rest with
      | nil => rfl
      | cons c cs =>
        rcases keeps_tail_cons_cases sees binary first c with ⟨cutter, -, -, cut⟩ | decimal
        · simp [cut, Cut.after] at before
        · exact (decimal cs).symm.trans before
    have decimalOther := keepsDecimal decimalRest
    cases other with
    | nil => rfl
    | cons c cs =>
      rcases keeps_tail_cons_cases sees binary first c with ⟨cutter, -, part, cut⟩ | decimal
      · obtain ⟨tail, rfl⟩ := List.head?_eq_some_iff.1 (sees.part c rfl part)
        simp [cut, Cut.after] at before
      · rw [decimal]
        exact decimalOther

theorem steady_tail (without : PartingWithout isPart parts) (first : Char) :
    Steady parts (tail first) := fun _ _ _ before resumes =>
  keeps_tail (sees_of_resumes without resumes)
    (keeps_exponent_of_resumes without constituent_isDecimalMark resumes)
    (keeps_exponent_of_resumes without constituent_isBinaryMark resumes) first before

/-- Where no word follows, a number literal sees no further than the next character or, behind a
point, the one after it. -/
theorem keeps_tail_of_head (noWord : ∀ c ∈ rest.head?, startsWord c = false)
    (head : other.head? = rest.head?)
    (point : rest.head? = some '.' → other.tail.head? = rest.tail.head?) (first : Char) :
    Keeps (tail first) rest other := by
  have sees : Sees rest other := by
    constructor
    · intro c next _
      rw [← head]
      exact next
    · intro dot d next _
      rw [← point (head ▸ dot)]
      exact next
  have noExponent {mark : Char → Bool} (marks : ∀ c, mark c = true → startsWord c = true) :
      Keeps (exponent mark) rest other := by
    apply keeps_exponent sees
    intro _
    cases other with
    | nil => rfl
    | cons m cs =>
      rcases exponent_cons mark m cs with ⟨d, ds, -, marked, -⟩ | ⟨-, nothing⟩
      · have starts := noWord m (by rw [← head]; rfl)
        simp [marks m marked] at starts
      · exact nothing
  apply keeps_tail sees <;> apply noExponent
  · intro c mark
    rcases (by simpa [isDecimalMark] using mark : c = 'e' ∨ c = 'E') with rfl | rfl <;> decide
  · intro c mark
    rcases (by simpa [isBinaryMark] using mark : c = 'p' ∨ c = 'P') with rfl | rfl <;> decide

end Number

/-! ## Operators, words and comments -/

theorem Comment.startsHere_iff {input : Text} :
    Comment.startsHere input = true ↔
      input.head? = some '/' ∧ (input.tail.head? = some '/' ∨ input.tail.head? = some '*') := by
  rw [Comment.startsHere.eq_def]
  split
  · simp
  · simp
  · next noLine noBlock =>
    simp only [Bool.false_eq_true, false_iff]
    rintro ⟨slash, next⟩
    cases input with
    | nil => simp at slash
    | cons c cs =>
      obtain rfl : c = '/' := by simpa using slash
      cases cs with
      | nil => simp at next
      | cons d ds =>
        rcases next with next | next
        · obtain rfl : d = '/' := by simpa using next
          exact noLine ds rfl
        · obtain rfl : d = '*' := by simpa using next
          exact noBlock ds rfl

/-- A comment that starts in the second text starts in the first text too. -/
theorem Resumes.startsHere (formal : FormalParting parts) {rest other : Text}
    (resumes : Resumes parts rest other) (starts : Comment.startsHere other = true) :
    Comment.startsHere rest = true := by
  rw [Comment.startsHere_iff] at starts ⊢
  obtain ⟨slash, next⟩ := starts
  cases other with
  | nil => simp at slash
  | cons c cs =>
    obtain rfl : c = '/' := by simpa using slash
    obtain ⟨tail, rfl, afterSlash⟩ := resumes.cons_of_formal formal (by decide)
    refine ⟨rfl, ?_⟩
    rcases next with next | next
    · exact .inl (afterSlash.head_of_formal formal (by decide) next)
    · exact .inr (afterSlash.head_of_formal formal (by decide) next)

/-- A comment that starts in the first text starts in the second text too, if they part only where
a word follows. -/
theorem Resumes.startsHere_of_words (words : WordParting parts) {rest other : Text}
    (resumes : Resumes parts rest other) (starts : Comment.startsHere rest = true) :
    Comment.startsHere other = true := by
  rw [Comment.startsHere_iff] at starts ⊢
  obtain ⟨slash, next⟩ := starts
  cases rest with
  | nil => simp at slash
  | cons c cs =>
    obtain rfl : c = '/' := by simpa using slash
    obtain ⟨tail, rfl, afterSlash⟩ := resumes.cons_of_words words (by decide)
    cases cs with
    | nil => simp at next
    | cons d ds =>
      have noWord : startsWord d = false := by
        rcases next with next | next
        · obtain rfl : d = '/' := by simpa using next
          decide
        · obtain rfl : d = '*' := by simpa using next
          decide
      obtain ⟨more, rfl, -⟩ := afterSlash.cons_of_words words noWord
      exact ⟨rfl, next⟩

theorem steady_operatorTail (words : WordParting parts) : Steady parts operatorTail := by
  have without : PartingWithout isOperatorChar parts :=
    words.without fun _ => isOperatorChar_eq_false_of_startsWord
  intro taken rest other before resumes
  induction taken with
  | nil =>
    cases other with
    | nil => rfl
    | cons c cs =>
      rw [List.nil_append] at before ⊢
      cases operator : isOperatorChar c with
      | false => simp [operatorTail, operator, Cut.nothing]
      | true =>
        -- the first text stops at the same character, so a comment starts in both
        obtain ⟨tail, rfl, -⟩ := resumes.cons_of_without without operator
        have comment : Comment.startsHere (c :: tail) = true := by
          rw [operatorTail, operator] at before
          split at before
          · simp [Cut.after] at before
          · next stops => simpa using stops
        have starts := resumes.startsHere_of_words words comment
        simp [operatorTail, starts, Cut.nothing]
  | cons c ts ih =>
    rw [List.cons_append, operatorTail] at before ⊢
    have sameStart : Comment.startsHere (c :: (ts ++ other)) =
        Comment.startsHere (c :: (ts ++ rest)) := by
      have both := resumes.append (c :: ts)
      rw [Bool.eq_iff_iff]
      exact ⟨both.startsHere words.formal, both.startsHere_of_words words⟩
    rw [sameStart]
    split at before
    · next goesOn =>
      rw [if_pos goesOn, Cut.after_cons_eq]
      exact ih (Cut.after_cons_eq.1 before)
    · simp [Cut.nothing] at before

/-- A word goes on with the words that may follow it, so the texts do not part where it ends. -/
theorem steady_wordSpan (words : WordParting parts) : Steady parts (Cut.span continuesWord) := by
  apply Steady.span
  intro rest other apart stops
  obtain ⟨c, cs, rfl, starts, noDollar⟩ := words.first apart
  have stopped := stops c rfl
  simp [continuesWord_of_startsWord starts noDollar] at stopped

/-- A line comment ends with its line. -/
theorem Comment.steady_lineTail (inner : InnerParting parts) : Steady parts Comment.lineTail := by
  apply Steady.span
  intro rest other apart stops
  obtain ⟨c, cs, rfl, inside⟩ := inner apart
  have ends := stops c rfl
  simp [inside] at ends

/-- A block comment that is closed ends at its closer whatever follows, and one that is not closed
ends with the text. -/
theorem Comment.blockTail_cases (depth : Nat) (input : Text) :
    ((depth = 0 ∨ (Comment.blockTail depth input).taken ≠ []) ∧
        ∀ other, Comment.blockTail depth ((Comment.blockTail depth input).taken ++ other) =
          ⟨(Comment.blockTail depth input).taken, other⟩) ∨
      (Comment.blockTail depth input).rest = [] := by
  fun_induction Comment.blockTail depth input with
  | case1 => exact .inl ⟨.inl rfl, fun other => by simp [Cut.nothing, Comment.blockTail]⟩
  | case2 => exact .inr rfl
  | case3 depth cs ih =>
    refine ih.imp (fun closed => ⟨.inr (by simp [Cut.after]), fun other => ?_⟩) (fun ends => ends)
    simp [Cut.after, Comment.blockTail, closed.2]
  | case4 depth cs ih =>
    refine ih.imp (fun closed => ⟨.inr (by simp [Cut.after]), fun other => ?_⟩) (fun ends => ends)
    simp [Cut.after, Comment.blockTail, closed.2]
  | case5 depth c cs noOpen noClose ih =>
    refine ih.imp (fun closed => ⟨.inr (by simp [Cut.after]), fun other => ?_⟩) (fun ends => ends)
    obtain ⟨more, same⟩ := closed
    -- the next character is taken too, so it is the same whatever follows the comment
    obtain ⟨d, ds, taken⟩ := List.exists_cons_of_ne_nil (more.resolve_left (by omega))
    have whole := Comment.whole_blockTail (depth + 1) cs
    rw [Cut.whole, taken, List.cons_append] at whole
    rw [taken] at same
    simp only [Cut.after, taken]
    rw [List.append_assoc, List.singleton_append, List.cons_append, Comment.blockTail]
    · rw [← List.cons_append, same other]
      rfl
    · rintro tail rfl slash
      obtain ⟨rfl, -⟩ := List.cons.inj slash
      exact noOpen _ rfl whole.symm
    · rintro tail rfl star
      obtain ⟨rfl, -⟩ := List.cons.inj star
      exact noClose _ rfl whole.symm

/-- A block comment from its slash on, in a text that goes on otherwise. -/
theorem steady_blockCommentCut (inner : InnerParting parts) {c star : Char}
    {taken rest other : Text}
    (cut : blockCommentCut c (star :: (taken ++ rest)) = ⟨c :: star :: taken, rest⟩)
    (resumes : Resumes parts rest other) :
    blockCommentCut c (star :: (taken ++ other)) = ⟨c :: star :: taken, other⟩ := by
  have body : Comment.blockTail 1 (taken ++ rest) = ⟨taken, rest⟩ := by
    rcases inside : Comment.blockTail 1 (taken ++ rest) with ⟨t, r⟩
    simpa [blockCommentCut, inside, Cut.after] using cut
  have same : Comment.blockTail 1 (taken ++ other) = ⟨taken, other⟩ := by
    rcases Comment.blockTail_cases 1 (taken ++ rest) with ⟨-, closed⟩ | ends
    · simpa [body] using closed other
    · obtain rfl : rest = [] := by simpa [body] using ends
      rw [resumes.eq_nil inner]
      exact body
  simp [blockCommentCut, same, Cut.after]

end Diglot
