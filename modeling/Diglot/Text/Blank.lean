import Diglot.Text.Basic
import Diglot.Text.CodeRanges

/-!
# Blanks

The blank characters, and texts without the blanks at their ends. `stripRight_concat_blank` and
`stripRight_concat` settle what becomes of a last character.
-/

set_option autoImplicit false

namespace Diglot.Text

/-- The blank characters, in ascending order: the control blanks, the information separators and
the space separators. -/
def blankRanges : CodeRanges :=
  [(0x9, 0xD), (0x1C, 0x20), (0x85, 0x85), (0xA0, 0xA0), (0x1680, 0x1680), (0x2000, 0x200A),
   (0x2028, 0x2029), (0x202F, 0x202F), (0x205F, 0x205F), (0x3000, 0x3000)]

/-- A space, a line break or another blank. -/
def isBlank (c : Char) : Bool :=
  blankRanges.covers c

def stripRight (text : Text) : Text :=
  (text.reverse.dropWhile isBlank).reverse

/-- The text without the blanks at its two ends. -/
def strip (text : Text) : Text :=
  stripRight (text.dropWhile isBlank)

/-- A blank last character goes. -/
theorem stripRight_concat_blank {text : Text} {c : Char} (h : isBlank c = true) :
    stripRight (text ++ [c]) = stripRight text := by
  simp [stripRight, h]

/-- Nothing goes when the last character is no blank. -/
theorem stripRight_concat {text : Text} {c : Char} (h : isBlank c = false) :
    stripRight (text ++ [c]) = text ++ [c] := by
  simp [stripRight, h]

@[simp] theorem strip_nil : strip [] = [] := rfl

end Diglot.Text
