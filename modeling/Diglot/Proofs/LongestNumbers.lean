import Diglot.Proofs.CodeTokens
import Mathlib.Computability.RegularExpressions

/-!
# Number literals are longest matches

The form of number literals as a regular expression: a hexadecimal, octal or binary literal behind
the letter of its base, or a decimal literal (`Number.literal`).

The scanner never goes back: it takes digits as long as there are any, and a point or the mark of an
exponent only where a digit follows. That this gives the longest front of the text that matches the
expression rests on two facts. Each part is taken as long as possible, and what could go on with a
part begins no later part, so a shorter match of a part leaves nothing to match behind it
(`LongestFront.append`). Of the four alternatives the first two characters leave one that can match
more than a single digit (`Number.longest_literal`).
-/

set_option autoImplicit false

namespace Diglot

/-! ## Regular expressions over characters -/

abbrev Pattern := RegularExpression Char

namespace Pattern

variable {chars text : Text} {pattern : Pattern}

def oneOf (chars : Text) : Pattern :=
  (chars.map RegularExpression.char).sum

def optional (pattern : Pattern) : Pattern :=
  1 + pattern

theorem mem_oneOf : text ∈ (oneOf chars).matches' ↔ ∃ c ∈ chars, text = [c] := by
  induction chars with
  | nil => simp [oneOf]
  | cons c chars ih =>
    have split : oneOf (c :: chars) = .char c + oneOf chars := List.sum_cons
    have single : text ∈ (RegularExpression.char c).matches' ↔ text = [c] := Iff.rfl
    rw [split, RegularExpression.matches'_add, Language.mem_add, single, ih]
    simp

theorem mem_oneOf_mul :
    text ∈ (oneOf chars * pattern).matches' ↔
      ∃ c ∈ chars, ∃ more ∈ pattern.matches', text = c :: more := by
  rw [RegularExpression.matches'_mul, Language.mem_mul]
  constructor
  · rintro ⟨front, matched, more, matchedMore, rfl⟩
    obtain ⟨c, member, rfl⟩ := mem_oneOf.1 matched
    exact ⟨c, member, more, matchedMore, rfl⟩
  · rintro ⟨c, member, more, matched, rfl⟩
    exact ⟨[c], mem_oneOf.2 ⟨c, member, rfl⟩, more, matched, rfl⟩

theorem cons_mem_oneOf_mul {c : Char} {more : Text} :
    c :: more ∈ (oneOf chars * pattern).matches' ↔ c ∈ chars ∧ more ∈ pattern.matches' := by
  rw [mem_oneOf_mul]
  constructor
  · rintro ⟨d, member, rest, matched, same⟩
    obtain ⟨rfl, rfl⟩ := List.cons.inj same
    exact ⟨member, matched⟩
  · rintro ⟨member, matched⟩
    exact ⟨c, member, more, matched, rfl⟩

theorem mem_optional :
    text ∈ (optional pattern).matches' ↔ text = [] ∨ text ∈ pattern.matches' := by
  simp [optional, Language.mem_add]

theorem mem_star_oneOf : text ∈ (oneOf chars).star.matches' ↔ ∀ c ∈ text, c ∈ chars := by
  rw [RegularExpression.matches'_star, Language.mem_kstar]
  constructor
  · rintro ⟨pieces, rfl, matched⟩ c member
    obtain ⟨piece, inPieces, inPiece⟩ := List.mem_flatten.1 member
    obtain ⟨d, inChars, rfl⟩ := mem_oneOf.1 (matched piece inPieces)
    obtain rfl : c = d := by simpa using inPiece
    exact inChars
  · intro inChars
    refine ⟨text.map ([·]), (List.flatMap_singleton' text).symm, fun piece member => ?_⟩
    obtain ⟨c, inText, rfl⟩ := List.mem_map.1 member
    exact mem_oneOf.2 ⟨c, inChars c inText, rfl⟩

end Pattern

open Pattern

/-! ## Longest fronts -/

/-- The text is the longest front of the input that matches the pattern. -/
structure LongestFront (pattern : Pattern) (input text : Text) : Prop where
  isPrefix : text <+: input
  matched : text ∈ pattern.matches'
  longest : ∀ front, front <+: input → front ∈ pattern.matches' → front.length ≤ text.length

/-- A cut takes the longest match if every match is a front of what it takes. -/
theorem longestFront_of_cut {pattern : Pattern} {input : Text} {cut : Cut}
    (whole : cut.whole = input) (matched : cut.taken ∈ pattern.matches')
    (longest : ∀ front more, input = front ++ more → front ∈ pattern.matches' →
      front <+: cut.taken) :
    LongestFront pattern input cut.taken := by
  refine ⟨⟨cut.rest, whole⟩, matched, ?_⟩
  rintro front ⟨more, split⟩ matchedFront
  exact (longest front more split.symm matchedFront).length_le

/-- Two longest matches, one behind the other, are the longest match of both, if no match of the
second begins with a character that the first has taken. -/
theorem LongestFront.append {first second : Pattern} {front rest back : Text}
    (one : LongestFront first (front ++ rest) front) (two : LongestFront second rest back)
    (apart : ∀ c ∈ front, ∀ text ∈ second.matches', text.head? ≠ some c) :
    LongestFront (first * second) (front ++ rest) (front ++ back) := by
  refine ⟨(List.prefix_append_right_inj front).2 two.isPrefix, ?_, ?_⟩
  · rw [RegularExpression.matches'_mul]
    exact Language.append_mem_mul one.matched two.matched
  · rintro _ isPrefix matched
    rw [RegularExpression.matches'_mul, Language.mem_mul] at matched
    obtain ⟨a, matchedA, b, matchedB, rfl⟩ := matched
    obtain ⟨tail, split⟩ := isPrefix
    rw [List.append_assoc] at split
    have shorter := one.longest a ⟨b ++ tail, split⟩ matchedA
    obtain ⟨left, rfl⟩ : a <+: front :=
      List.prefix_of_prefix_length_le ⟨b ++ tail, split⟩ (List.prefix_append front rest) shorter
    rw [List.append_assoc, List.append_cancel_left_eq] at split
    cases left with
    | nil =>
      have shorterB := two.longest b ⟨tail, split⟩ matchedB
      simp only [List.length_append, List.length_nil]
      omega
    | cons c left =>
      -- the first match could have gone on with `c`, so the second match is empty
      obtain rfl : b = [] := by
        cases b with
        | nil => rfl
        | cons d b =>
          obtain ⟨rfl, -⟩ := List.cons.inj split
          exact absurd rfl (apart d (by simp) (d :: b) matchedB)
      simp only [List.length_append, List.length_nil]
      omega

namespace Number

open Text (isDigit)

/-! ## The form of number literals -/

def digitChars : Text := "0123456789".toList

def hexChars : Text := "0123456789abcdefABCDEF".toList

def octalChars : Text := "01234567".toList

def binaryChars : Text := "01".toList

def digitsPattern (chars : Text) : Pattern :=
  (oneOf ('_' :: chars)).star

/-- A point with a digit after it, and the digits from there. -/
def fractionPattern (chars : Text) : Pattern :=
  optional (oneOf ['.'] * (oneOf chars * digitsPattern chars))

/-- A mark, perhaps a sign, and a decimal digit with the digits from there. -/
def exponentPattern (marks : Text) : Pattern :=
  optional (oneOf marks *
    (optional (oneOf ['+', '-']) * (oneOf digitChars * digitsPattern digitChars)))

def realPattern (chars marks : Text) : Pattern :=
  digitsPattern chars * (fractionPattern chars * exponentPattern marks)

/-- A zero, the letter of a base, and what follows it. -/
def based (letters : Text) (pattern : Pattern) : Pattern :=
  oneOf ['0'] * (oneOf letters * pattern)

def literal : Pattern :=
  based ['x', 'X'] (realPattern hexChars ['p', 'P']) +
    (based ['o', 'O'] (digitsPattern octalChars) +
      (based ['b', 'B'] (digitsPattern binaryChars) +
        oneOf digitChars * realPattern digitChars ['e', 'E']))

/-! ## Classes of characters -/

/-- The class is the list of its characters. -/
def Lists (chars : Text) (p : Char → Bool) : Prop :=
  ∀ c, p c = true ↔ c ∈ chars

/-- All digits are among the first 128 characters, so a class of digits can be listed by trying
these. -/
theorem lists_of_isHexDigit {chars : Text} {digit : Char → Bool}
    (hex : ∀ c, digit c = true → isHexDigit c = true) (low : ∀ c ∈ chars, c.toNat < 128)
    (same : ∀ n < 128, digit (Char.ofNat n) = true ↔ Char.ofNat n ∈ chars) :
    Lists chars digit := by
  intro c
  have listed (small : c.toNat < 128) : digit c = true ↔ c ∈ chars := by
    have here := same c.toNat small
    rwa [Char.ofNat_toNat] at here
  constructor
  · intro isDigit
    have range := toNat_of_isHexDigit (hex c isDigit)
    exact (listed (by omega)).1 isDigit
  · exact fun member => (listed (low c member)).2 member

theorem lists_isDigit : Lists digitChars isDigit :=
  lists_of_isHexDigit (fun _ => isHexDigit_of_isDigit) (forall_mem_of_all (by decide))
    (by decide +kernel)

theorem lists_isHexDigit : Lists hexChars isHexDigit :=
  lists_of_isHexDigit (fun _ digit => digit) (forall_mem_of_all (by decide)) (by decide +kernel)

theorem lists_isOctalDigit : Lists octalChars isOctalDigit :=
  lists_of_isHexDigit (fun _ => isHexDigit_of_isOctalDigit) (forall_mem_of_all (by decide))
    (by decide +kernel)

theorem lists_isBinaryDigit : Lists binaryChars isBinaryDigit :=
  lists_of_isHexDigit (fun _ => isHexDigit_of_isBinaryDigit) (forall_mem_of_all (by decide))
    (by decide +kernel)

theorem lists_pair (a b : Char) : Lists [a, b] fun c => c == a || c == b := by
  intro c
  simp

theorem lists_isSign : Lists ['+', '-'] isSign := lists_pair '+' '-'

theorem lists_isDecimalMark : Lists ['e', 'E'] isDecimalMark := lists_pair 'e' 'E'

theorem lists_isBinaryMark : Lists ['p', 'P'] isBinaryMark := lists_pair 'p' 'P'

variable {chars marks text front more input : Text} {digit mark : Char → Bool}

/-! ## Matches of the parts -/

theorem mem_digitsPattern (lists : Lists chars digit) :
    text ∈ (digitsPattern chars).matches' ↔ ∀ c ∈ text, (c == '_' || digit c) = true := by
  rw [digitsPattern, mem_star_oneOf]
  simp [lists _]

/-- The form of a fraction: a point, a digit, and more digits behind it. -/
def IsFraction (digit : Char → Bool) (text : Text) : Prop :=
  ∃ d ds, text = '.' :: d :: ds ∧ digit d = true ∧ ∀ c ∈ ds, (c == '_' || digit c) = true

theorem mem_fractionPattern (lists : Lists chars digit) :
    text ∈ (fractionPattern chars).matches' ↔ text = [] ∨ IsFraction digit text := by
  rw [fractionPattern, mem_optional, mem_oneOf_mul]
  refine or_congr_right ⟨?_, ?_⟩
  · rintro ⟨point, isPoint, more, matched, rfl⟩
    obtain ⟨d, member, ds, inside, rfl⟩ := mem_oneOf_mul.1 matched
    obtain rfl : point = '.' := by simpa using isPoint
    exact ⟨d, ds, rfl, (lists d).2 member, (mem_digitsPattern lists).1 inside⟩
  · rintro ⟨d, ds, rfl, isDigit, inside⟩
    have counted := (mem_digitsPattern lists).2 inside
    exact ⟨'.', by simp, d :: ds, cons_mem_oneOf_mul.2 ⟨(lists d).1 isDigit, counted⟩, rfl⟩

theorem mem_exponentPattern (lists : Lists marks mark) :
    text ∈ (exponentPattern marks).matches' ↔ text = [] ∨ IsExponent mark text := by
  have signs (text : Text) : text ∈ (optional (oneOf ['+', '-'])).matches' ↔
      text = [] ∨ ∃ s, text = [s] ∧ isSign s = true := by
    rw [mem_optional, mem_oneOf]
    refine or_congr_right (exists_congr fun s => ?_)
    rw [← lists_isSign s, and_comm]
  rw [exponentPattern, mem_optional, mem_oneOf_mul]
  refine or_congr_right ⟨?_, ?_⟩
  · rintro ⟨m, marked, _, matched, rfl⟩
    rw [RegularExpression.matches'_mul, Language.mem_mul] at matched
    obtain ⟨sign, signed, _, counted, rfl⟩ := matched
    obtain ⟨d, member, ds, inside, rfl⟩ := mem_oneOf_mul.1 counted
    exact ⟨m, sign, d, ds, rfl, (lists m).2 marked, (signs sign).1 signed,
      (lists_isDigit d).2 member, (mem_digitsPattern lists_isDigit).1 inside⟩
  · rintro ⟨m, sign, d, ds, rfl, marked, signed, isDigit, inside⟩
    have counted := (mem_digitsPattern lists_isDigit).2 inside
    refine ⟨m, (lists m).1 marked, sign ++ d :: ds, ?_, rfl⟩
    rw [RegularExpression.matches'_mul]
    exact Language.append_mem_mul ((signs sign).2 signed)
      (cons_mem_oneOf_mul.2 ⟨(lists_isDigit d).1 isDigit, counted⟩)

/-! ## The parts are longest matches -/

theorem digits_taken (digit : Char → Bool) (input : Text) :
    ∀ c ∈ (digits digit input).taken, (c == '_' || digit c) = true :=
  (Cut.span_eq_iff.1 (Cut.eq_of_whole (whole_digits digit) input)).1

theorem digits_stop (digit : Char → Bool) (input : Text) :
    ∀ c ∈ (digits digit input).rest.head?, (c == '_' || digit c) = false :=
  (Cut.span_eq_iff.1 (Cut.eq_of_whole (whole_digits digit) input)).2

/-- Digits are taken with all the digits behind them. -/
theorem digits_append (inside : ∀ c ∈ front, (c == '_' || digit c) = true) (more : Text) :
    digits digit (front ++ more) = (digits digit more).after front := by
  have whole : (digits digit more).taken ++ (digits digit more).rest = more :=
    whole_digits digit more
  have cut : digits digit ((front ++ (digits digit more).taken) ++ (digits digit more).rest) =
      ⟨front ++ (digits digit more).taken, (digits digit more).rest⟩ :=
    Cut.span_eq_iff.2 ⟨List.forall_mem_append.2 ⟨inside, digits_taken digit more⟩,
      digits_stop digit more⟩
  rwa [List.append_assoc, whole] at cut

theorem longest_digits (lists : Lists chars digit) (input : Text) :
    LongestFront (digitsPattern chars) input (digits digit input).taken := by
  apply longestFront_of_cut (whole_digits digit input)
  · exact (mem_digitsPattern lists).2 (digits_taken digit input)
  · rintro front more rfl matched
    rw [digits_append ((mem_digitsPattern lists).1 matched)]
    exact List.prefix_append _ _

/-- A fraction is taken with all the digits behind it. -/
theorem IsFraction.isPrefix_taken (isFraction : IsFraction digit front) (more : Text) :
    front <+: (fraction digit (front ++ more)).taken := by
  obtain ⟨d, ds, rfl, isDigit, inside⟩ := isFraction
  have all : ∀ c ∈ d :: ds, (c == '_' || digit c) = true :=
    List.forall_mem_cons.2 ⟨by simp [isDigit], inside⟩
  have cut : fraction digit ('.' :: (d :: ds ++ more)) =
      ((digits digit more).after (d :: ds)).after ['.'] := by
    rw [← digits_append all, List.cons_append, fraction, if_pos isDigit]
  rw [List.cons_append, cut]
  exact List.prefix_append ('.' :: d :: ds) _

theorem longest_fraction (lists : Lists chars digit) (input : Text) :
    LongestFront (fractionPattern chars) input (fraction digit input).taken := by
  apply longestFront_of_cut (whole_fraction digit input)
  · rw [mem_fractionPattern lists]
    have cut := Cut.eq_of_whole (whole_fraction digit) input
    rcases fraction_eq_iff.1 cut with ⟨empty, -⟩ | ⟨d, ds, taken, isDigit, counted⟩
    · exact .inl empty
    · have inside := (List.forall_mem_cons.1 (Cut.span_eq_iff.1 counted).1).2
      exact .inr ⟨d, ds, taken, isDigit, inside⟩
  · rintro front more rfl matched
    rcases (mem_fractionPattern lists).1 matched with rfl | isFraction
    · exact List.nil_prefix
    · exact isFraction.isPrefix_taken more

/-- An exponent is taken with all the digits behind it. -/
theorem IsExponent.isPrefix_taken (isExponent : IsExponent mark front) (more : Text) :
    front <+: (exponent mark (front ++ more)).taken := by
  obtain ⟨m, signs, d, ds, rfl, marked, signed, digit, inside⟩ := isExponent
  have whole : (digits isDigit more).taken ++ (digits isDigit more).rest = more :=
    whole_digits isDigit more
  have further : IsExponent mark (m :: (signs ++ d :: ds) ++ (digits isDigit more).taken) :=
    ⟨m, signs, d, ds ++ (digits isDigit more).taken, by simp, marked, signed, digit,
      List.forall_mem_append.2 ⟨inside, digits_taken isDigit more⟩⟩
  have cut := exponent_eq_iff.2 (.inr ⟨further, digits_stop isDigit more⟩)
  rw [List.append_assoc, whole] at cut
  rw [cut]
  exact List.prefix_append _ _

theorem longest_exponent (lists : Lists marks mark) (input : Text) :
    LongestFront (exponentPattern marks) input (exponent mark input).taken := by
  apply longestFront_of_cut (whole_exponent mark input)
  · rw [mem_exponentPattern lists]
    have cut := Cut.eq_of_whole (whole_exponent mark) input
    exact (exponent_eq_iff.1 cut).imp And.left And.left
  · rintro front more rfl matched
    rcases (mem_exponentPattern lists).1 matched with rfl | isExponent
    · exact List.nil_prefix
    · exact isExponent.isPrefix_taken more

/-! ## Digits, fraction and exponent -/

theorem head?_fractionPattern {c : Char} (matched : text ∈ (fractionPattern chars).matches')
    (begins : text.head? = some c) : c = '.' := by
  rw [fractionPattern, mem_optional, mem_oneOf_mul] at matched
  rcases matched with rfl | ⟨point, isPoint, more, -, rfl⟩
  · simp at begins
  · obtain rfl : point = c := by simpa using begins
    simpa using isPoint

theorem head?_exponentPattern {c : Char} (matched : text ∈ (exponentPattern marks).matches')
    (begins : text.head? = some c) : c ∈ marks := by
  rw [exponentPattern, mem_optional, mem_oneOf_mul] at matched
  rcases matched with rfl | ⟨m, marked, more, -, rfl⟩
  · simp at begins
  · obtain rfl : m = c := by simpa using begins
    exact marked

/-- Behind the digits, a literal goes on with a point or a mark. -/
theorem head?_behind {c : Char}
    (matched : text ∈ (fractionPattern chars * exponentPattern marks).matches')
    (begins : text.head? = some c) : c = '.' ∨ c ∈ marks := by
  rw [RegularExpression.matches'_mul, Language.mem_mul] at matched
  obtain ⟨point, matchedPoint, power, matchedPower, rfl⟩ := matched
  cases point with
  | nil => exact .inr (head?_exponentPattern matchedPower begins)
  | cons d ds => exact .inl (head?_fractionPattern matchedPoint begins)

/-- Behind its first digit or the letter of its base, a literal goes on with a digit, an underscore,
a point or a mark. -/
theorem head?_realPattern {c : Char} (matched : text ∈ (realPattern chars marks).matches')
    (begins : text.head? = some c) : c ∈ '_' :: '.' :: (chars ++ marks) := by
  rw [realPattern, RegularExpression.matches'_mul, Language.mem_mul] at matched
  obtain ⟨whole, matchedWhole, behind, matchedBehind, rfl⟩ := matched
  cases whole with
  | nil =>
    rcases head?_behind matchedBehind begins with rfl | marked
    · simp
    · simp [marked]
  | cons d ds =>
    obtain rfl : d = c := by simpa using begins
    have digit := mem_star_oneOf.1 matchedWhole d (by simp)
    rcases List.mem_cons.1 digit with rfl | listed
    · simp
    · simp [listed]

/-- A fraction is made of its point, digits and underscores. -/
theorem mem_of_fractionPattern {c : Char} (matched : text ∈ (fractionPattern chars).matches')
    (part : c ∈ text) : c ∈ '_' :: '.' :: chars := by
  rw [fractionPattern, mem_optional, mem_oneOf_mul] at matched
  rcases matched with rfl | ⟨point, isPoint, _, counted, rfl⟩
  · simp at part
  · obtain ⟨d, member, ds, inside, rfl⟩ := mem_oneOf_mul.1 counted
    have digits := mem_star_oneOf.1 inside c
    rcases List.mem_cons.1 part with rfl | part
    · simp [List.mem_singleton.1 isPoint]
    · rcases List.mem_cons.1 part with rfl | part
      · simp [member]
      · rcases List.mem_cons.1 (digits part) with rfl | listed
        · simp
        · simp [listed]

theorem real_taken (digit mark : Char → Bool) (input : Text) :
    (real digit mark input).taken = (digits digit input).taken ++
      ((fraction digit (digits digit input).rest).taken ++
        (exponent mark (fraction digit (digits digit input).rest).rest).taken) :=
  List.append_assoc _ _ _

/-- Digits, fraction and exponent are together a longest match, if the point is no digit and a mark
is neither a digit nor an underscore nor a point. -/
theorem longest_real (digitsListed : Lists chars digit) (marksListed : Lists marks mark)
    (noPoint : '.' ∉ chars) (noMark : ∀ m ∈ marks, m ∉ '_' :: '.' :: chars) (input : Text) :
    LongestFront (realPattern chars marks) input (real digit mark input).taken := by
  have wholeDigits : (digits digit input).taken ++ (digits digit input).rest = input :=
    whole_digits digit input
  rw [real_taken]
  generalize (digits digit input).rest = behind at wholeDigits ⊢
  have wholeFraction : (fraction digit behind).taken ++ (fraction digit behind).rest = behind :=
    whole_fraction digit behind
  have one : LongestFront (digitsPattern chars) ((digits digit input).taken ++ behind)
      (digits digit input).taken := by
    rw [wholeDigits]
    exact longest_digits digitsListed input
  have two : LongestFront (fractionPattern chars)
      ((fraction digit behind).taken ++ (fraction digit behind).rest)
      (fraction digit behind).taken := by
    rw [wholeFraction]
    exact longest_fraction digitsListed behind
  have three := longest_exponent marksListed (fraction digit behind).rest
  have last := two.append three fun c part text matched begins =>
    noMark c (head?_exponentPattern matched begins) (mem_of_fractionPattern two.matched part)
  rw [wholeFraction] at last
  have whole := one.append last fun c part text matched begins => by
    have listed := mem_star_oneOf.1 one.matched c part
    rcases head?_behind matched begins with rfl | marked
    · simp [noPoint] at listed
    · refine noMark c marked ?_
      rcases List.mem_cons.1 listed with rfl | listed
      · simp
      · simp [listed]
  rwa [wholeDigits] at whole

/-! ## The four alternatives -/

/-- A literal of more than one character, by its first two characters. -/
theorem mem_literal_cons_cons {first second : Char} :
    first :: second :: text ∈ literal.matches' ↔
      first = '0' ∧ second ∈ ['x', 'X'] ∧ text ∈ (realPattern hexChars ['p', 'P']).matches' ∨
      first = '0' ∧ second ∈ ['o', 'O'] ∧ text ∈ (digitsPattern octalChars).matches' ∨
      first = '0' ∧ second ∈ ['b', 'B'] ∧ text ∈ (digitsPattern binaryChars).matches' ∨
      first ∈ digitChars ∧ second :: text ∈ (realPattern digitChars ['e', 'E']).matches' := by
  simp only [literal, based, RegularExpression.matches'_add, Language.mem_add, cons_mem_oneOf_mul,
    List.mem_singleton]

/-- Only the letter of a base goes on with the literal of that base. -/
theorem mem_literal_zero {letter : Char} (base : letter ∈ ['x', 'X', 'o', 'O', 'b', 'B']) :
    '0' :: letter :: text ∈ literal.matches' ↔
      letter ∈ ['x', 'X'] ∧ text ∈ (realPattern hexChars ['p', 'P']).matches' ∨
      letter ∈ ['o', 'O'] ∧ text ∈ (digitsPattern octalChars).matches' ∨
      letter ∈ ['b', 'B'] ∧ text ∈ (digitsPattern binaryChars).matches' := by
  have noDecimal : letter :: text ∉ (realPattern digitChars ['e', 'E']).matches' := by
    intro matched
    have other : ∀ c ∈ ['x', 'X', 'o', 'O', 'b', 'B'],
        c ∉ '_' :: '.' :: (digitChars ++ ['e', 'E']) := forall_mem_of_all (by decide)
    exact other letter base (head?_realPattern matched rfl)
  simp [mem_literal_cons_cons, noDecimal]

/-- Behind the letter of a base the literal is a longest match of that base. -/
theorem longest_based {pattern : Pattern} {letter : Char} {cs taken : Text}
    (longest : LongestFront pattern cs taken)
    (only : ∀ text, '0' :: letter :: text ∈ literal.matches' ↔ text ∈ pattern.matches') :
    LongestFront literal ('0' :: letter :: cs) ('0' :: letter :: taken) := by
  refine ⟨?_, (only taken).2 longest.matched, ?_⟩
  · simpa using longest.isPrefix
  · intro front isPrefix matched
    match front with
    | [] | [_] => simp
    | first :: second :: more =>
      obtain ⟨rfl, rfl, inside⟩ : first = '0' ∧ second = letter ∧ more <+: cs := by
        simpa using isPrefix
      have shorter := longest.longest more inside ((only more).1 matched)
      simp only [List.length_cons]
      omega

/-- What a literal is behind its first digit. -/
theorem tail_cases (first : Char) (cs : Text) :
    (∃ letter more, cs = letter :: more ∧ first = '0' ∧
      (letter ∈ ['x', 'X'] ∧ tail first cs = (real isHexDigit isBinaryMark more).after [letter] ∨
        letter ∈ ['o', 'O'] ∧ tail first cs = (digits isOctalDigit more).after [letter] ∨
        letter ∈ ['b', 'B'] ∧ tail first cs = (digits isBinaryDigit more).after [letter])) ∨
      (∀ letter more, cs = letter :: more → first = '0' →
          letter ∉ ['x', 'X'] ∧ letter ∉ ['o', 'O'] ∧ letter ∉ ['b', 'B']) ∧
        tail first cs = real isDigit isDecimalMark cs := by
  cases cs with
  | nil => exact .inr ⟨by simp, rfl⟩
  | cons letter more =>
    rw [tail]
    split
    · next hex => exact .inl ⟨letter, more, rfl, hex.1, .inl ⟨by simpa using hex.2, rfl⟩⟩
    · next noHex =>
      split
      · next octal =>
        exact .inl ⟨letter, more, rfl, octal.1, .inr (.inl ⟨by simpa using octal.2, rfl⟩)⟩
      · next noOctal =>
        split
        · next binary =>
          exact .inl ⟨letter, more, rfl, binary.1, .inr (.inr ⟨by simpa using binary.2, rfl⟩)⟩
        · next noBinary =>
          refine .inr ⟨fun other rest same zero => ?_, rfl⟩
          obtain ⟨rfl, -⟩ := List.cons.inj same
          exact ⟨fun base => noHex ⟨zero, by simpa using base⟩,
            fun base => noOctal ⟨zero, by simpa using base⟩,
            fun base => noBinary ⟨zero, by simpa using base⟩⟩

theorem longest_decimal {first : Char} {cs : Text} (digit : first ∈ digitChars)
    (noBase : ∀ letter more, cs = letter :: more → first = '0' →
      letter ∉ ['x', 'X'] ∧ letter ∉ ['o', 'O'] ∧ letter ∉ ['b', 'B']) :
    LongestFront literal (first :: cs) (first :: (real isDigit isDecimalMark cs).taken) := by
  have longest : LongestFront (realPattern digitChars ['e', 'E']) cs _ :=
    longest_real lists_isDigit lists_isDecimalMark (by decide) (forall_mem_of_all (by decide)) cs
  refine ⟨?_, ?_, ?_⟩
  · simpa using longest.isPrefix
  · simp only [literal, RegularExpression.matches'_add, Language.mem_add]
    exact .inr (.inr (.inr (cons_mem_oneOf_mul.2 ⟨digit, longest.matched⟩)))
  · intro front isPrefix matched
    match front with
    | [] | [_] => simp
    | one :: two :: more =>
      obtain ⟨rfl, behind⟩ : one = first ∧ two :: more <+: cs := by simpa using isPrefix
      obtain ⟨tail, same⟩ := behind
      have other := noBase two (more ++ tail) same.symm
      rcases mem_literal_cons_cons.1 matched with
        ⟨zero, base, -⟩ | ⟨zero, base, -⟩ | ⟨zero, base, -⟩ | ⟨-, matched⟩
      · exact absurd base (other zero).1
      · exact absurd base (other zero).2.1
      · exact absurd base (other zero).2.2
      · have shorter := longest.longest (two :: more) ⟨tail, same⟩ matched
        simp only [List.length_cons] at shorter ⊢
        omega

/-- A number literal is the longest match. -/
theorem longest_literal {first : Char} (digit : first ∈ digitChars) (cs : Text) :
    LongestFront literal (first :: cs) (first :: (tail first cs).taken) := by
  rcases tail_cases first cs with
    ⟨letter, more, rfl, rfl, ⟨base, cut⟩ | ⟨base, cut⟩ | ⟨base, cut⟩⟩ | ⟨noBase, cut⟩
  · have longest := longest_real lists_isHexDigit lists_isBinaryMark (by decide)
      (forall_mem_of_all (by decide)) more
    rw [cut]
    apply longest_based longest
    intro text
    rcases (by simpa using base : letter = 'x' ∨ letter = 'X') with rfl | rfl <;>
      simp [mem_literal_zero]
  · rw [cut]
    apply longest_based (longest_digits lists_isOctalDigit more)
    intro text
    rcases (by simpa using base : letter = 'o' ∨ letter = 'O') with rfl | rfl <;>
      simp [mem_literal_zero]
  · rw [cut]
    apply longest_based (longest_digits lists_isBinaryDigit more)
    intro text
    rcases (by simpa using base : letter = 'b' ∨ letter = 'B') with rfl | rfl <;>
      simp [mem_literal_zero]
  · rw [cut]
    exact longest_decimal digit noBase

end Number

/-! ## Numbers of a scan -/

/-- Where a digit stands in code, the next token is a number literal: the longest front of what
follows in the source that has the form of one. -/
theorem number_literal_longest (localized : Bool) (source : Text) (cursor : Cursor) (first : Char)
    (reached : Cursor.Reached source localized cursor)
    (inCode : cursor.frames.head? ≠ some .string) (digit : first ∈ Number.digitChars)
    (begins : (source.drop cursor.position).head? = some first) :
    ∃ text, Cursor.Records source localized cursor ⟨.numberLiteral, text⟩ ∧
      LongestFront Number.literal (source.drop cursor.position) text := by
  obtain ⟨cs, here⟩ := List.head?_eq_some_iff.1 begins
  have form : Form.ofStart first cs = .number :=
    Form.ofStart_of_isDigit ((Number.lists_isDigit first).2 digit) cs
  have stepped : codeStep localized [] first cs =
      ⟨.numberLiteral, (Number.tail first cs).after [first], .code []⟩ := by rw [codeStep, form]
  have records := reached.records inCode here (by simp [form]) (by simp [form])
  rw [stepped] at records
  refine ⟨_, records, ?_⟩
  rw [here]
  exact Number.longest_literal digit cs

/-- A literal before the mark and the sign of an exponent that has no digit. -/
def halfExponentText : Text := "-0x_F.8p+q".toList

def halfExponentCursor : Cursor where
  position := 1
  frames := []
  tokens := Token.place 0 [⟨.operator, ['-']⟩]

theorem number_literal_longest_halfExponent :
    Cursor.Reached halfExponentText false halfExponentCursor ∧
      Cursor.Records halfExponentText false halfExponentCursor
        ⟨.numberLiteral, "0x_F.8".toList⟩ ∧
      LongestFront Number.literal "0x_F.8p+q".toList "0x_F.8".toList := by
  have reached : Cursor.Reached halfExponentText false halfExponentCursor :=
    .turn .start (by decide) rfl
  have found : lexemes false halfExponentText =
      [⟨.operator, ['-']⟩, ⟨.numberLiteral, "0x_F.8".toList⟩, ⟨.identifier, ['p']⟩,
       ⟨.operator, ['+']⟩, ⟨.identifier, ['q']⟩] := by decide +kernel
  have scanned : scan false halfExponentText = halfExponentCursor.tokens ++ Token.place 1
      [⟨.numberLiteral, "0x_F.8".toList⟩, ⟨.identifier, ['p']⟩, ⟨.operator, ['+']⟩,
       ⟨.identifier, ['q']⟩] := by
    rw [scan, found]
    rfl
  obtain ⟨text, records, longest⟩ := number_literal_longest false halfExponentText
    halfExponentCursor '0' reached (by decide) (by decide) rfl
  obtain rfl : text = "0x_F.8".toList := congrArg Lexeme.text (records.eq_of_scan scanned)
  exact ⟨reached, records, longest⟩

end Diglot
