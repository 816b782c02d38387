import Diglot.Text.Basic

/-!
# Lines

The lines of the dictionary formats. `lines` knows every line break of running text and gives no
last empty line. `withNewlines` is the form in which a file's text is read: each carriage return,
with a line feed after it or not, becomes one line feed.
-/

set_option autoImplicit false

namespace Diglot.Text

def isNewline (c : Char) : Bool :=
  c == '\n' || c == '\r'

/-- A character that ends a line of running text. -/
def isLineBreak (c : Char) : Bool :=
  c ∈ ['\n', '\r', '\x0b', '\x0c', '\x1c', '\x1d', '\x1e', '\x85', '\u2028', '\u2029']

/-- The lines of running text, without their breaks; a carriage return and the line feed after it
are one break. -/
def lines : Text → List Text
  | [] => []
  | '\r' :: '\n' :: cs => [] :: lines cs
  | c :: cs =>
    if isLineBreak c then [] :: lines cs
    else match lines cs with
      | [] => [[c]]
      | line :: rest => (c :: line) :: rest

/-- Each carriage return, with a line feed after it or not, becomes one line feed. -/
def withNewlines : Text → Text
  | [] => []
  | '\r' :: '\n' :: cs => '\n' :: withNewlines cs
  | '\r' :: cs => '\n' :: withNewlines cs
  | c :: cs => c :: withNewlines cs

end Diglot.Text
