import Diglot.Text.Basic

/-!
# Lexemes

A lexeme is a piece of source text with its kind. Source text is the concatenation of its lexemes;
nothing between them is dropped.
-/

set_option autoImplicit false

namespace Diglot

/-- The kinds of lexemes. A delimiter is the opener or the closing parenthesis of an interpolation
inside a string literal. -/
inductive Kind
  | keyword
  | identifier
  | stringLiteral
  | comment
  | whitespace
  | punctuation
  | operator
  | numberLiteral
  | delimiter
  | unknown
  deriving DecidableEq, Repr

def Kind.name : Kind → String
  | .keyword => "keyword"
  | .identifier => "identifier"
  | .stringLiteral => "string_literal"
  | .comment => "comment"
  | .whitespace => "whitespace"
  | .punctuation => "punctuation"
  | .operator => "operator"
  | .numberLiteral => "number_literal"
  | .delimiter => "interpolation_delimiter"
  | .unknown => "unknown"

def Kind.all : List Kind :=
  [.keyword, .identifier, .stringLiteral, .comment, .whitespace, .punctuation, .operator,
   .numberLiteral, .delimiter, .unknown]

def Kind.ofName? (name : Text) : Option Kind :=
  Kind.all.find? (·.name.toList = name)

/-- A classified piece of text. -/
structure Lexeme where
  kind : Kind
  text : Text
  deriving DecidableEq, Repr

def Lexeme.concat (lexemes : List Lexeme) : Text :=
  lexemes.flatMap Lexeme.text

@[simp] theorem Lexeme.concat_nil : Lexeme.concat [] = [] := rfl

@[simp] theorem Lexeme.concat_cons (lexeme : Lexeme) (lexemes : List Lexeme) :
    Lexeme.concat (lexeme :: lexemes) = lexeme.text ++ Lexeme.concat lexemes := by
  simp [Lexeme.concat]

end Diglot
