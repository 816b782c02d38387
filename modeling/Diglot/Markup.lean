import Diglot.Lexeme.Basic
import Diglot.Mode
import Diglot.Text.CodeRanges

/-!
# Directional markup

Localized text runs from right to left. Each lexeme of it is set apart by directional controls, so
that an editor shows it in order: words and literals are isolated, slashes in operators are turned
round, and an opening bracket is followed by a mark. The other modes have no controls.
-/

set_option autoImplicit false

namespace Diglot.Markup

def leftIsolate : Char := '\u2066'

def rightIsolate : Char := '\u2067'

/-- Begins an isolate that takes its direction from its contents. -/
def firstStrongIsolate : Char := '\u2068'

def popIsolate : Char := '\u2069'

def leftMark : Char := '\u200e'

def rightMark : Char := '\u200f'

/-- Every directional control, the embeddings and overrides of old among them. -/
def controls : List Char :=
  [leftIsolate, rightIsolate, firstStrongIsolate, popIsolate, leftMark, rightMark,
   '\u202a', '\u202b', '\u202c', '\u202d', '\u202e']

def isControl (c : Char) : Bool :=
  controls.contains c

/-- The Hebrew script and its presentation forms. -/
def rightToLeftRanges : Text.CodeRanges :=
  [(0x590, 0x5FF), (0xFB1D, 0xFB4F)]

def isRightToLeft (c : Char) : Bool :=
  rightToLeftRanges.covers c

def hasRightToLeft (text : Text) : Bool :=
  text.any isRightToLeft

def stripControls (text : Text) : Text :=
  text.filter fun c => !isControl c

/-- The other slash, for a slash. -/
def swapSlash (c : Char) : Char :=
  if c = '/' then '\\' else if c = '\\' then '/' else c

/-- The text with its slashes turned round. -/
def swapSlashes (text : Text) : Text :=
  text.map swapSlash

/-- A forward slash, for a backslash. -/
def forwardSlash (c : Char) : Char :=
  if c = '\\' then '/' else c

/-- The delimiter of an interpolation as localized text writes it. -/
def localizedDelimiter : Text → Text
  | '\\' :: cs => '/' :: cs
  | text => text

/-- The delimiter of an interpolation as the other modes write it. -/
def plainDelimiter : Text → Text
  | '/' :: cs => '\\' :: cs
  | text => text

def isOpeningBracket (text : Text) : Bool :=
  text ∈ [['('], ['['], ['{']]

def isolate (opener : Char) (text : Text) : Text :=
  opener :: text ++ [popIsolate]

/-- A lexeme in localized text. -/
def markedText (lexeme : Lexeme) : Text :=
  match lexeme.kind with
  | .keyword | .identifier =>
    isolate (if hasRightToLeft lexeme.text then rightIsolate else leftIsolate) lexeme.text
  | .stringLiteral => isolate firstStrongIsolate lexeme.text
  | .operator => isolate leftIsolate (swapSlashes lexeme.text)
  | .delimiter => isolate leftIsolate (localizedDelimiter lexeme.text)
  | .punctuation =>
    if isOpeningBracket lexeme.text then lexeme.text ++ [leftMark] else lexeme.text
  | .whitespace | .comment | .numberLiteral | .unknown => lexeme.text

/-- A lexeme in the other modes. -/
def plainText (lexeme : Lexeme) : Text :=
  let text := stripControls lexeme.text
  match lexeme.kind with
  | .operator => text.map forwardSlash
  | .delimiter => plainDelimiter text
  | .keyword | .identifier | .stringLiteral | .comment | .whitespace | .punctuation
  | .numberLiteral | .unknown => text

def lexemeText : Mode → Lexeme → Text
  | .localized => markedText
  | .primary | .hybrid => plainText

def render (mode : Mode) (lexemes : List Lexeme) : Text :=
  lexemes.flatMap (lexemeText mode)

end Diglot.Markup
