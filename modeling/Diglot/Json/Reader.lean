import Diglot.Json.Basic
import Diglot.Text.Digit

/-!
# Reading JSON

Reading is strict: one value with blanks around it and nothing else, no comments, no trailing
commas, no leading zeros, no raw control characters in strings and no lone surrogates. Arrays and
objects nest to a depth of 1024. An integer that fits neither a signed nor an unsigned word of 64
bits is read as a double, and a number that is too large for a double is refused.
-/

set_option autoImplicit false

namespace Diglot.Json

open Text (isDigit)

/-- A blank between the parts of a document. -/
def isFiller (c : Char) : Bool :=
  c == ' ' || c == '\t' || c == '\n' || c == '\r'

def skipFiller (input : Text) : Text :=
  input.dropWhile isFiller

/-! ## Strings -/

def hexValue? (c : Char) : Option Nat :=
  if isDigit c then some (c.toNat - 48)
  else if 'a' ≤ c ∧ c ≤ 'f' then some (c.toNat - 87)
  else if 'A' ≤ c ∧ c ≤ 'F' then some (c.toNat - 55)
  else none

/-- Four hexadecimal digits. -/
def unit? : Text → Option (Nat × Text)
  | a :: b :: c :: d :: rest =>
    match hexValue? a, hexValue? b, hexValue? c, hexValue? d with
    | some a, some b, some c, some d => some (((a * 16 + b) * 16 + c) * 16 + d, rest)
    | _, _, _, _ => none
  | _ => none

/-- The second half of a surrogate pair. -/
def lowSurrogate? : Text → Option (Nat × Text)
  | '\\' :: 'u' :: rest =>
    match unit? rest with
    | some (low, rest) => if 0xDC00 ≤ low ∧ low ≤ 0xDFFF then some (low, rest) else none
    | none => none
  | _ => none

/-- A character by its code, or by the two halves of a surrogate pair. -/
def codeEscape? (input : Text) : Option (Char × Text) :=
  match unit? input with
  | none => none
  | some (code, rest) =>
    if 0xD800 ≤ code ∧ code ≤ 0xDBFF then
      (lowSurrogate? rest).map fun (low, rest) =>
        (Char.ofNat (0x10000 + (code - 0xD800) * 0x400 + (low - 0xDC00)), rest)
    else if 0xDC00 ≤ code ∧ code ≤ 0xDFFF then none
    else some (Char.ofNat code, rest)

/-- What a backslash stands for, with the text after it. -/
def escape? : Text → Option (Char × Text)
  | [] => none
  | c :: rest =>
    if c = '"' ∨ c = '\\' ∨ c = '/' then some (c, rest)
    else if c = 'b' then some ('\x08', rest)
    else if c = 'f' then some ('\x0c', rest)
    else if c = 'n' then some ('\n', rest)
    else if c = 'r' then some ('\r', rest)
    else if c = 't' then some ('\t', rest)
    else if c = 'u' then codeEscape? rest
    else none

/-- A string after its opening quote. -/
def stringTail? (input : Text) : Option (Text × Text) :=
  match input with
  | [] => none
  | c :: rest =>
    if c = '"' then some ([], rest)
    else if c = '\\' then
      match escape? rest with
      | none => none
      | some (x, later) =>
        if _ : later.length < (c :: rest).length then
          (stringTail? later).map fun (text, last) => (x :: text, last)
        else none
    else if c < ' ' then none
    else (stringTail? rest).map fun (text, last) => (c :: text, last)
termination_by input.length
decreasing_by
  · assumption
  · exact Nat.lt_succ_self rest.length

/-! ## Numbers -/

def digitsValue (digits : Text) : Nat :=
  digits.foldl (fun n c => n * 10 + (c.toNat - 48)) 0

/-- Digits of an integer without a leading zero. -/
def wholePart? (input : Text) : Option (Text × Text) :=
  match input.takeWhile isDigit with
  | [] => none
  | '0' :: _ :: _ => none
  | digits => some (digits, input.dropWhile isDigit)

def someDigits? (input : Text) : Option (Text × Text) :=
  match input.takeWhile isDigit with
  | [] => none
  | digits => some (digits, input.dropWhile isDigit)

/-- The digits after a point, none if there is no point. -/
def fraction? : Text → Option (Text × Text)
  | '.' :: rest => someDigits? rest
  | input => some ([], input)

/-- The exponent, if there is one; a mark must have digits after it. -/
def exponent? : Text → Option (Option Int × Text)
  | c :: rest =>
    if c = 'e' ∨ c = 'E' then
      let (negative, unsigned) := match rest with
        | '-' :: later => (true, later)
        | '+' :: later => (false, later)
        | later => (false, later)
      (someDigits? unsigned).map fun (digits, later) =>
        let value := Int.ofNat (digitsValue digits)
        (some (if negative then -value else value), later)
    else some (none, c :: rest)
  | [] => some (none, [])

def leastInteger : Int := -0x8000000000000000

def greatestInteger : Int := 0xFFFFFFFFFFFFFFFF

def number? (negative : Bool) (whole fraction : Text) (exponent : Option Int) : Option Json :=
  let real := (Decimal.nearestDecimal (digitsValue (whole ++ fraction))
    (exponent.getD 0 - fraction.length)).map fun magnitude => .real ⟨negative, magnitude⟩
  if fraction.isEmpty ∧ exponent.isNone then
    let value := Int.ofNat (digitsValue whole)
    let signed := if negative then -value else value
    if leastInteger ≤ signed ∧ signed ≤ greatestInteger then some (.integer signed) else real
  else real

def unsigned? (negative : Bool) (input : Text) : Option (Json × Text) :=
  match wholePart? input with
  | none => none
  | some (whole, rest) =>
    match fraction? rest with
    | none => none
    | some (fraction, rest) =>
      match exponent? rest with
      | none => none
      | some (exponent, rest) =>
        (number? negative whole fraction exponent).map fun value => (value, rest)

/-! ## Values -/

def scalar? : Text → Option (Json × Text)
  | 'n' :: 'u' :: 'l' :: 'l' :: rest => some (.null, rest)
  | 't' :: 'r' :: 'u' :: 'e' :: rest => some (.bool true, rest)
  | 'f' :: 'a' :: 'l' :: 's' :: 'e' :: rest => some (.bool false, rest)
  | '"' :: rest => (stringTail? rest).map fun (text, later) => (.string text, later)
  | '-' :: rest => unsigned? true rest
  | input => unsigned? false input

/-- One or more items with commas between them, up to the closing character. Blanks may stand
around each. -/
def items? {α : Type} (item : Text → Option (α × Text)) (close : Char) (input : Text) :
    Option (List α × Text) :=
  match item (skipFiller input) with
  | none => none
  | some (value, rest) =>
    match skipFiller rest with
    | [] => none
    | c :: later =>
      if c = close then some ([value], later)
      else if c = ',' then
        if _ : later.length < input.length then
          (items? item close later).map fun (values, last) => (value :: values, last)
        else none
      else none
termination_by input.length
decreasing_by assumption

/-- The items of an array or the members of an object after the opening character. -/
def contents? {α : Type} (item : Text → Option (α × Text)) (close : Char) (input : Text) :
    Option (List α × Text) :=
  match skipFiller input with
  | [] => none
  | c :: rest => if c = close then some ([], rest) else items? item close input

/-- A member: a name, a colon and a value. -/
def member (value : Text → Option (Json × Text)) : Text → Option ((Text × Json) × Text)
  | '"' :: rest =>
    match stringTail? rest with
    | none => none
    | some (name, rest) =>
      match skipFiller rest with
      | ':' :: rest => (value (skipFiller rest)).map fun (value, later) => ((name, value), later)
      | _ => none
  | _ => none

/-- A value in which arrays and objects nest to the given depth. -/
def value? : Nat → Text → Option (Json × Text)
  | 0, input => scalar? input
  | depth + 1, input =>
    match input with
    | '[' :: rest => (contents? (value? depth) ']' rest).map fun (items, later) =>
        (.array items, later)
    | '\x7b' :: rest => (contents? (member (value? depth)) '\x7d' rest).map fun (members, later) =>
        (.object (membersOf members), later)
    | _ => scalar? input

def read? (document : Text) : Option Json :=
  match value? 1024 (skipFiller document) with
  | some (value, rest) => if (skipFiller rest).isEmpty then some value else none
  | none => none

end Diglot.Json
