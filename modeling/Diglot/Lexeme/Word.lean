import Diglot.Keyword
import Diglot.Lexeme.Basic
import Diglot.Lexeme.Cut
import Diglot.Text.Letter
import Diglot.Text.Lines
import Diglot.Text.Mark
import Diglot.Text.Numeral

/-!
# Words and escaped names

A word starts with a letter, an underscore or a dollar sign and goes on with letters, numerals,
marks, connectors and joiners. It is a keyword or an identifier by the keyword table alone. An
escaped name stands between backticks on one line and is always an identifier.
-/

set_option autoImplicit false

namespace Diglot

def backtick : Char := '\x60'

def startsWord (c : Char) : Bool :=
  c == '_' || c == '$' || Text.isLetter c

def continuesWord (c : Char) : Bool :=
  c == '_' || Text.isLetter c || Text.isNumeral c || c == '\u200c' || c == '\u200d' ||
    Text.isMark c

def isWord : Text → Bool
  | [] => false
  | c :: cs => startsWord c && cs.all continuesWord

def wordKind (word : Text) : Kind :=
  if Keyword.isKeyword word then .keyword else .identifier

def wordCut (c : Char) (cs : Text) : Cut :=
  (Cut.span continuesWord cs).after [c]

/-- An escaped name after its first backtick: up to the next backtick, or to the end of the line if
there is none. -/
def escapedNameTail : Text → Cut
  | [] => Cut.nothing []
  | c :: cs =>
    if Text.isNewline c then Cut.nothing (c :: cs)
    else if c = backtick then ⟨[c], cs⟩
    else (escapedNameTail cs).after [c]

@[simp] theorem whole_wordCut (c : Char) (cs : Text) : (wordCut c cs).whole = c :: cs := by
  simp [wordCut]

@[simp] theorem whole_escapedNameTail (cs : Text) : (escapedNameTail cs).whole = cs := by
  induction cs with
  | nil => rfl
  | cons c cs ih =>
    rw [escapedNameTail]
    split
    · simp
    · split <;> simp [ih]

end Diglot
