import Diglot.Text.Basic

/-!
# Raw texts

An argument from outside is a list of code points, and not every code point is a character: half of
a surrogate pair can stand there without the other. Such a text is raw. Every text is raw, and a raw
text is a text exactly if it holds no surrogate (`RawText.raw_toText_iff`).
-/

set_option autoImplicit false

namespace Diglot

/-- A code point: a character or one of the surrogates, by its number among them. -/
inductive CodePoint
  | char (c : Char)
  | surrogate (number : Fin 0x800)
  deriving DecidableEq, Repr

namespace CodePoint

def toNat : CodePoint → Nat
  | .char c => c.toNat
  | .surrogate number => 0xD800 + number

def isSurrogate : CodePoint → Bool
  | .char _ => false
  | .surrogate _ => true

/-- The code point as a character. For a surrogate that is the replacement character. -/
def toChar : CodePoint → Char
  | .char c => c
  | .surrogate _ => '\ufffd'

end CodePoint

/-- A text from outside as the list of its code points. -/
abbrev RawText := List CodePoint

def Text.raw (text : Text) : RawText :=
  text.map .char

namespace RawText

def hasSurrogate (raw : RawText) : Bool :=
  raw.any CodePoint.isSurrogate

/-- The raw text with the replacement character for each surrogate. -/
def toText (raw : RawText) : Text :=
  raw.map CodePoint.toChar

def toStr (raw : RawText) : String :=
  raw.toText.toStr

@[simp] theorem toText_raw (text : Text) : text.raw.toText = text := by
  simp [toText, Text.raw, CodePoint.toChar, Function.comp_def]

/-- Nothing is replaced exactly if there is no surrogate. -/
theorem raw_toText_iff {raw : RawText} : raw.toText.raw = raw ↔ raw.hasSurrogate = false := by
  induction raw with
  | nil => simp [toText, Text.raw, hasSurrogate]
  | cons point points ih =>
    simp only [toText, Text.raw, hasSurrogate, List.map_cons, List.cons.injEq, List.any_cons,
      Bool.or_eq_false_iff] at ih ⊢
    rw [ih]
    cases point <;> simp [CodePoint.toChar, CodePoint.isSurrogate]

@[simp] theorem hasSurrogate_raw (text : Text) : text.raw.hasSurrogate = false :=
  raw_toText_iff.1 (by rw [toText_raw])

@[simp] theorem hasSurrogate_append (front back : RawText) :
    (front ++ back).hasSurrogate = (front.hasSurrogate || back.hasSurrogate) := by
  simp [hasSurrogate]

end RawText

theorem Text.raw_injective (a b : Text) (same : a.raw = b.raw) : a = b := by
  rw [← RawText.toText_raw a, same, RawText.toText_raw]

end Diglot
