import Diglot.Invalid
import Diglot.Lexeme.Scan

/-!
# Tokens

A token is a lexeme with its place in the source, a half-open range of character offsets. The place
is not part of what a token is: two tokens are alike when their lexemes are equal.

`scan` places the lexemes of a source one after another from offset zero.
-/

set_option autoImplicit false

namespace Diglot

structure Token where
  lexeme : Lexeme
  start : Nat
  stop : Nat
  start_le_stop : start ≤ stop

namespace Token

/-- A token from outside, if its kind and its range mean something. -/
def make (kindName text : Text) (start stop : Int) : Except Invalid Token :=
  match Kind.ofName? kindName with
  | none => .error (.kind kindName)
  | some kind =>
    if h : 0 ≤ start ∧ start ≤ stop then
      .ok ⟨⟨kind, text⟩, start.toNat, stop.toNat, by omega⟩
    else
      .error (.range start stop)

/-- Whether two tokens have the same kind and text, wherever they stand. -/
def alike (a b : Token) : Bool :=
  a.lexeme = b.lexeme

def withText (token : Token) (text : Text) : Token :=
  { token with lexeme := { token.lexeme with text } }

def shown (token : Token) : String :=
  let kind := token.lexeme.kind.name
  let text := token.lexeme.text.shown
  s!"Token({kind}, {text}, {token.start}:{token.stop})"

/-- Places lexemes one after another from `offset` on. -/
def place (offset : Nat) : List Lexeme → List Token
  | [] => []
  | lexeme :: lexemes =>
    ⟨lexeme, offset, offset + lexeme.text.length, Nat.le_add_right _ _⟩ ::
      place (offset + lexeme.text.length) lexemes

def concat (tokens : List Token) : Text :=
  Lexeme.concat (tokens.map lexeme)

/-- Placing changes no lexeme. -/
@[simp] theorem map_lexeme_place (offset : Nat) (lexemes : List Lexeme) :
    (place offset lexemes).map lexeme = lexemes := by
  induction lexemes generalizing offset with
  | nil => rfl
  | cons _ _ ih => simp [place, ih]

/-- Lexemes that are placed alike are alike. -/
theorem place_inj {offset : Nat} {a b : List Lexeme} :
    place offset a = place offset b ↔ a = b := by
  refine ⟨fun same => ?_, congrArg _⟩
  have lexemes := congrArg (List.map lexeme) same
  rwa [map_lexeme_place, map_lexeme_place] at lexemes

end Token

def scan (localized : Bool) (source : Text) : List Token :=
  Token.place 0 (lexemes localized source)

@[simp] theorem map_lexeme_scan (localized : Bool) (source : Text) :
    (scan localized source).map Token.lexeme = lexemes localized source :=
  Token.map_lexeme_place 0 _

/-- The tokens of a source make up the source. -/
@[simp] theorem concat_scan (localized : Bool) (source : Text) :
    Token.concat (scan localized source) = source := by
  rw [Token.concat, map_lexeme_scan, concat_lexemes]

end Diglot
