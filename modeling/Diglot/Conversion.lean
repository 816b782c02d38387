import Diglot.Lexeme.Scan
import Diglot.Markup
import Diglot.Rewording

/-!
# Conversion between modes

A text is converted by scanning it, rewording its lexemes and writing them in the target mode.
Between the localized and the hybrid mode only keywords change; from and to the primary mode names
change too. A text is already in its own mode.
-/

set_option autoImplicit false

namespace Diglot

/-- The vocabulary of the target mode's keywords. -/
def Mode.direction (target : Mode) : Direction :=
  match target with
  | .localized => .toLocalized
  | .primary | .hybrid => .toPrimary

/-- Which words change between two modes. -/
def Mode.scopeTo (source target : Mode) : Scope :=
  match source, target with
  | .localized, .hybrid | .hybrid, .localized => .keywordsOnly
  | .primary, .localized | .primary, .hybrid | .localized, .primary | .hybrid, .primary => .full
  | .primary, .primary | .localized, .localized | .hybrid, .hybrid => .keywordsOnly

def convert (lexicon : Lexicon) (source target : Mode) (text : Text) : Text :=
  if source = target then text
  else
    let reworded := (lexemes source.hasMarkup text).map
      (Lexeme.reword lexicon target.direction (source.scopeTo target))
    Markup.render target reworded

/-- The text in each mode of a chain, one conversion after another. -/
def convertAlong (lexicon : Lexicon) : List Mode → Text → List Text
  | source :: target :: modes, text =>
    let converted := convert lexicon source target text
    converted :: convertAlong lexicon (target :: modes) converted
  | _, _ => []

end Diglot
