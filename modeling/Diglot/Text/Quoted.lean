import Diglot.Text.Raw
import Diglot.Text.Unprintable

/-!
# Quoted texts in messages

A message shows a text between quotes, with escapes for what would not be seen and for surrogates.
The quote is the apostrophe, unless the text holds an apostrophe and no double quote.
-/

set_option autoImplicit false

namespace Diglot

namespace Text

def apostrophe : Char := '\x27'

/-- `n` in lower-case hexadecimal, padded with zeros to `width` digits. -/
def hexadecimal (width n : Nat) : Text :=
  let digits := Nat.toDigits 16 n
  List.replicate (width - digits.length) '0' ++ digits

end Text

namespace CodePoint

/-- A code point by its number, in the shortest of the three escape forms. -/
def escaped (point : CodePoint) : Text :=
  let n := point.toNat
  if n < 0x100 then '\\' :: 'x' :: Text.hexadecimal 2 n
  else if n < 0x10000 then '\\' :: 'u' :: Text.hexadecimal 4 n
  else '\\' :: 'U' :: Text.hexadecimal 8 n

/-- One code point between quotes. -/
def quoted (quote : Char) : CodePoint → Text
  | .surrogate number => (CodePoint.surrogate number).escaped
  | .char c =>
    if c = '\\' then ['\\', '\\']
    else if c = quote then ['\\', c]
    else if c = '\n' then ['\\', 'n']
    else if c = '\r' then ['\\', 'r']
    else if c = '\t' then ['\\', 't']
    else if Text.isUnprintable c then (CodePoint.char c).escaped
    else [c]

end CodePoint

namespace RawText

def quoteFor (raw : RawText) : Char :=
  if raw.contains (.char Text.apostrophe) && !raw.contains (.char '"') then '"'
  else Text.apostrophe

/-- The raw text between quotes, as a message shows it. -/
def quoted (raw : RawText) : Text :=
  let quote := quoteFor raw
  quote :: raw.flatMap (CodePoint.quoted quote) ++ [quote]

def shown (raw : RawText) : String :=
  raw.quoted.toStr

end RawText

namespace Text

/-- The text between quotes, as a message shows it. -/
def quoted (text : Text) : Text :=
  text.raw.quoted

def shown (text : Text) : String :=
  text.quoted.toStr

end Text

end Diglot
