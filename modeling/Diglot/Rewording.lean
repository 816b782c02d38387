import Diglot.Lexicon
import Diglot.Token

/-!
# Rewording

A lexeme is reworded by putting the counterpart of its text in place. Only keywords and identifiers
are ever reworded, identifiers only in full scope, and a word without counterpart stays as it is.
-/

set_option autoImplicit false

namespace Diglot

/-- Whether a scope affects lexemes of a kind. -/
def Scope.affects : Scope → Kind → Bool
  | _, .keyword => true
  | .full, .identifier => true
  | _, _ => false

/-- The lexeme with its counterpart in place of its text. -/
def Lexeme.reword (lexicon : Lexicon) (direction : Direction) (scope : Scope) (lexeme : Lexeme) :
    Lexeme :=
  if scope.affects lexeme.kind then
    { lexeme with text := (lexicon.counterpart? direction lexeme.text).getD lexeme.text }
  else lexeme

/-- Rewording keeps the kind. -/
@[simp] theorem Lexeme.kind_reword (lexicon : Lexicon) (direction : Direction) (scope : Scope)
    (lexeme : Lexeme) : (lexeme.reword lexicon direction scope).kind = lexeme.kind := by
  rw [Lexeme.reword]
  split <;> rfl

/-- The token with its counterpart in place of its text; it keeps its place. -/
def Token.reword (lexicon : Lexicon) (direction : Direction) (scope : Scope) (token : Token) :
    Token :=
  { token with lexeme := token.lexeme.reword lexicon direction scope }

end Diglot
