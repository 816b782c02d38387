import Diglot.Lexeme.Cut
import Diglot.Text.Lines

/-!
# Comments

A line comment goes to the end of its line. A block comment ends where its nested comments are all
closed, or at the end of the text.
-/

set_option autoImplicit false

namespace Diglot.Comment

def startsHere : Text → Bool
  | '/' :: '/' :: _ => true
  | '/' :: '*' :: _ => true
  | _ => false

/-- The rest of a line comment after its first slash. -/
def lineTail (input : Text) : Cut :=
  Cut.span (fun c => !Text.isNewline c) input

/-- The rest of a block comment inside `depth` open comments. -/
def blockTail : Nat → Text → Cut
  | 0, input => Cut.nothing input
  | _ + 1, [] => Cut.nothing []
  | depth + 1, '/' :: '*' :: cs => (blockTail (depth + 2) cs).after ['/', '*']
  | depth + 1, '*' :: '/' :: cs => (blockTail depth cs).after ['*', '/']
  | depth + 1, c :: cs => (blockTail (depth + 1) cs).after [c]

@[simp] theorem whole_lineTail (input : Text) : (lineTail input).whole = input :=
  Cut.whole_span _ _

@[simp] theorem whole_blockTail (depth : Nat) (input : Text) :
    (blockTail depth input).whole = input := by
  fun_induction blockTail depth input <;> simp_all

end Diglot.Comment
