import Diglot.Lexeme.Comment

/-!
# Operators and punctuation

An operator is a run of operator characters that stops before a comment. A backslash stands alone,
and so does each punctuation mark.
-/

set_option autoImplicit false

namespace Diglot

def isOperatorChar (c : Char) : Bool :=
  c ∈ ['+', '-', '*', '/', '%', '=', '<', '>', '!', '&', '|', '^', '~', '?']

def isPunctuation (c : Char) : Bool :=
  c ∈ ['(', ')', '[', ']', '{', '}', ',', ';', ':', '.', '@', '#']

/-- The operator characters from here to the next comment or other character. -/
def operatorTail : Text → Cut
  | [] => Cut.nothing []
  | c :: cs =>
    if isOperatorChar c && !Comment.startsHere (c :: cs) then (operatorTail cs).after [c]
    else Cut.nothing (c :: cs)

@[simp] theorem whole_operatorTail (input : Text) : (operatorTail input).whole = input := by
  induction input with
  | nil => rfl
  | cons c cs ih => rw [operatorTail]; split <;> simp [ih]

end Diglot
