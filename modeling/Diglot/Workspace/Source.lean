import Diglot.Conversion
import Diglot.Workspace.Basic

/-!
# Source files

The suffix of a source file tells its mode: one suffix for localized text, another for the rest.
-/

set_option autoImplicit false

namespace Diglot

def localizedSuffix : Text :=
  ['.', 'g', 'i', 'k', 'h']

def primarySuffix : Text :=
  ['.', 's', 'w', 'i', 'f', 't']

/-- The mode of a file by its suffix: localized, or else hybrid. -/
def Mode.ofPath (path : Path) : Mode :=
  if path.suffix = localizedSuffix then .localized else .hybrid

def Mode.suffix : Mode → Text
  | .localized => localizedSuffix
  | .primary | .hybrid => primarySuffix

def Session.convertFile (lexicon : Lexicon) (path : Path) (source : Option Mode) (target : Mode) :
    Session Text := do
  let text ← readText path
  return convert lexicon (source.getD (Mode.ofPath path)) target text

end Diglot
