import Diglot.Decimal.Binary
import Diglot.Text.Basic

/-!
# The shortest decimal of a double

`shortest` finds the fewest decimal digits that round to a magnitude, and of those the nearest to
it. It tries one digit, two digits and so on, and for each number of digits the two neighbours of
the value on that decimal grid. Seventeen digits always suffice.
-/

set_option autoImplicit false

namespace Diglot.Decimal

/-- Decimal digits before a power of ten: `digits * 10 ^ exponent`. -/
structure Scientific where
  digits : Nat
  exponent : Int
  deriving DecidableEq, Repr

/-- The value of a magnitude and the ends of the interval that rounds to it, over one
denominator. -/
structure Interval where
  low : Nat
  value : Nat
  high : Nat
  denominator : Nat
  closed : Bool
  deriving DecidableEq, Repr

/-- The interval of the numbers that round to a magnitude. Below a power of two the neighbour is
nearer; the ends belong to the interval of an even mantissa. -/
def Magnitude.interval (magnitude : Magnitude) : Interval :=
  let below :=
    if magnitude.mantissa = mantissaLimit / 2 ∧ leastExponent < magnitude.exponent then 1 else 2
  let scale := Nat.pow 2 magnitude.exponent.toNat
  let value := 4 * magnitude.mantissa
  { low := (value - below) * scale
    value := value * scale
    high := (value + 2) * scale
    denominator := 4 * Nat.pow 2 (-magnitude.exponent).toNat
    closed := magnitude.mantissa % 2 = 0 }

namespace Interval

/-- The interval in units of `10 ^ exponent`. -/
def inUnits (interval : Interval) (exponent : Int) : Interval :=
  let up := Nat.pow 10 (-exponent).toNat
  { interval with
    low := interval.low * up
    value := interval.value * up
    high := interval.high * up
    denominator := interval.denominator * Nat.pow 10 exponent.toNat }

def holds (interval : Interval) (n : Nat) : Bool :=
  let scaled := n * interval.denominator
  if interval.closed then interval.low ≤ scaled && scaled ≤ interval.high
  else interval.low < scaled && scaled < interval.high

/-- A natural number in the interval next to its value: the nearer one, of two that are equally
near the even one. -/
def neighbour? (interval : Interval) : Option Nat :=
  let below := interval.value / interval.denominator
  let above := below + 1
  match interval.holds below, interval.holds above with
  | true, true => some (roundQuotient interval.value interval.denominator)
  | true, false => some below
  | false, true => some above
  | false, false => none

/-- The exponent of the first digit of the value, searched downwards from `start`. -/
def leading (interval : Interval) (start : Int) : Nat → Int
  | 0 => start
  | steps + 1 =>
    let units := interval.inUnits start
    if units.denominator ≤ units.value then start else leading interval (start - 1) steps

/-- The first decimal grid with a point in the interval, with `count` more digits to try. -/
def search (interval : Interval) (exponent : Int) : Nat → Scientific
  | 0 => ⟨(interval.inUnits exponent).value / (interval.inUnits exponent).denominator, exponent⟩
  | count + 1 =>
    match (interval.inUnits exponent).neighbour? with
    | some digits => ⟨digits, exponent⟩
    | none => search interval (exponent - 1) count

end Interval

/-- The shortest decimal that rounds to a magnitude above zero. -/
def Magnitude.shortest (magnitude : Magnitude) : Scientific :=
  let interval := magnitude.interval
  interval.search (interval.leading 309 640) 17

/-- The digits of a decimal without zeros at the end, and the place of its point: the value is
`0.digits * 10 ^ point`. -/
def Scientific.normalized (decimal : Scientific) : Text × Int :=
  let digits := Nat.toDigits 10 decimal.digits
  let point := decimal.exponent + digits.length
  ((digits.reverse.dropWhile (· == '0')).reverse, point)

/-- Digits and the place of the point as a number is written: positional from 0.0001 up to below
10 ^ 16, and with an exponent of at least two digits otherwise. -/
def layout (digits : Text) (point : Int) : Text :=
  if -4 < point ∧ point ≤ 0 then
    '0' :: '.' :: List.replicate (-point).toNat '0' ++ digits
  else if 0 < point ∧ point ≤ 16 then
    let whole := point.toNat
    if digits.length ≤ whole then
      digits ++ List.replicate (whole - digits.length) '0' ++ ['.', '0']
    else
      digits.take whole ++ '.' :: digits.drop whole
  else
    let power := Nat.toDigits 10 (point - 1).natAbs
    let padded := if power.length < 2 then '0' :: power else power
    let fraction := if digits.length ≤ 1 then [] else '.' :: digits.drop 1
    digits.take 1 ++ fraction ++ 'e' :: (if point - 1 < 0 then '-' else '+') :: padded

/-- A double as it is written. -/
def Double.text (x : Double) : Text :=
  let magnitude :=
    if x.magnitude.mantissa = 0 then ['0', '.', '0']
    else
      let (digits, point) := x.magnitude.shortest.normalized
      layout digits point
  if x.negative then '-' :: magnitude else magnitude

end Diglot.Decimal
