import Diglot.Ascending
import Diglot.Lexeme.Scan
import Diglot.Lexicon

/-!
# Coverage

The names of a source that no tier of a lexicon knows, on either side. Names of one character do not
count.
-/

set_option autoImplicit false

namespace Diglot

/-- Whether a lexicon knows a symbol in one of the directions. -/
def Lexicon.knows (lexicon : Lexicon) (symbol : Text) : Bool :=
  (lexicon.counterpart? .toPrimary symbol).isSome ||
    (lexicon.counterpart? .toLocalized symbol).isSome

/-- Whether a lexeme is a name that counts and that the lexicon does not know. -/
def Lexeme.isUncovered (lexicon : Lexicon) (lexeme : Lexeme) : Bool :=
  lexeme.kind = .identifier && 2 ≤ lexeme.text.length && !lexicon.knows lexeme.text

/-- The uncovered names of one source, as they occur. -/
def uncoveredIn (lexicon : Lexicon) (localized : Bool) (source : Text) : List Text :=
  ((lexemes localized source).filter (Lexeme.isUncovered lexicon)).map Lexeme.text

/-- The uncovered names of the sources, ascending and each once. -/
def uncovered (lexicon : Lexicon) (localized : Bool) (sources : List Text) : List Text :=
  ascending (sources.flatMap (uncoveredIn lexicon localized))

end Diglot
