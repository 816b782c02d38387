import Diglot.Lexeme.Cut
import Diglot.Text.Digit

/-!
# Number literals

A number literal starts with a decimal digit. After `0x`, `0o` or `0b` the digits of that base
follow; otherwise it is decimal. Underscores may stand among the digits. A point joins the literal
only when a digit follows it, so `1..<5` and `1.description` are not swallowed, and an exponent
joins only when it has a digit.
-/

set_option autoImplicit false

namespace Diglot.Number

open Text (isDigit)

def isHexDigit (c : Char) : Bool :=
  isDigit c || ('a' ≤ c && c ≤ 'f') || ('A' ≤ c && c ≤ 'F')

def isOctalDigit (c : Char) : Bool :=
  '0' ≤ c && c ≤ '7'

def isBinaryDigit (c : Char) : Bool :=
  c == '0' || c == '1'

def isSign (c : Char) : Bool :=
  c == '+' || c == '-'

/-- The mark of a decimal exponent. -/
def isDecimalMark (c : Char) : Bool :=
  c == 'e' || c == 'E'

/-- The mark of a binary exponent, in a hexadecimal literal. -/
def isBinaryMark (c : Char) : Bool :=
  c == 'p' || c == 'P'

/-- Digits and underscores. -/
def digits (digit : Char → Bool) (input : Text) : Cut :=
  Cut.span (fun c => c == '_' || digit c) input

/-- A point with a digit after it, and the digits from there. -/
def fraction (digit : Char → Bool) : Text → Cut
  | '.' :: d :: cs =>
    if digit d then (digits digit (d :: cs)).after ['.'] else Cut.nothing ('.' :: d :: cs)
  | input => Cut.nothing input

def sign : Text → Cut
  | c :: cs => if isSign c then ⟨[c], cs⟩ else Cut.nothing (c :: cs)
  | [] => Cut.nothing []

/-- An exponent: its mark, perhaps a sign, and a digit with the digits from there. -/
def exponent (mark : Char → Bool) : Text → Cut
  | [] => Cut.nothing []
  | m :: cs =>
    match (sign cs).rest with
    | d :: _ =>
      if mark m && isDigit d then ((sign cs).andThen (digits isDigit)).after [m]
      else Cut.nothing (m :: cs)
    | [] => Cut.nothing (m :: cs)

/-- Digits, a fraction and an exponent. -/
def real (digit mark : Char → Bool) (input : Text) : Cut :=
  ((digits digit input).andThen (fraction digit)).andThen (exponent mark)

/-- The rest of a number literal that begins with the digit `first`. -/
def tail (first : Char) : Text → Cut
  | [] => Cut.nothing []
  | c :: cs =>
    if first = '0' ∧ (c = 'x' ∨ c = 'X') then (real isHexDigit isBinaryMark cs).after [c]
    else if first = '0' ∧ (c = 'o' ∨ c = 'O') then (digits isOctalDigit cs).after [c]
    else if first = '0' ∧ (c = 'b' ∨ c = 'B') then (digits isBinaryDigit cs).after [c]
    else real isDigit isDecimalMark (c :: cs)

@[simp] theorem whole_digits (digit : Char → Bool) (input : Text) :
    (digits digit input).whole = input :=
  Cut.whole_span _ _

@[simp] theorem whole_fraction (digit : Char → Bool) (input : Text) :
    (fraction digit input).whole = input := by
  rw [fraction.eq_def]
  split
  · split <;> simp
  · simp

@[simp] theorem whole_sign (input : Text) : (sign input).whole = input := by
  cases input with
  | nil => rfl
  | cons c cs => rw [sign]; split <;> simp

@[simp] theorem whole_exponent (mark : Char → Bool) (input : Text) :
    (exponent mark input).whole = input := by
  cases input with
  | nil => rfl
  | cons m cs =>
    rw [exponent]
    split
    · split
      · simp [Cut.whole_andThen (whole_digits isDigit)]
      · simp
    · simp

@[simp] theorem whole_real (digit mark : Char → Bool) (input : Text) :
    (real digit mark input).whole = input := by
  rw [real, Cut.whole_andThen (whole_exponent mark), Cut.whole_andThen (whole_fraction digit),
    whole_digits]

@[simp] theorem whole_tail (first : Char) (input : Text) : (tail first input).whole = input := by
  cases input with
  | nil => rfl
  | cons c cs =>
    rw [tail]
    split
    · simp
    · split
      · simp
      · split <;> simp

end Diglot.Number
