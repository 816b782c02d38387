import Diglot.Conversion
import Diglot.Text.Lines

/-!
# Round trips

A round trip takes a text to another mode and back, and reports the lines in which the result
differs from it. Where one of the modes has directional markup, the controls do not count.
-/

set_option autoImplicit false

namespace Diglot

/-- A line that differs, counted from one. -/
structure LineMismatch where
  line : Nat
  expected : Text
  actual : Text
  deriving DecidableEq, Repr

/-- The lines of two texts side by side; a missing line counts as empty. -/
def pairLines : List Text → List Text → List (Text × Text)
  | [], actual => actual.map fun found => ([], found)
  | expected, [] => expected.map fun wanted => (wanted, [])
  | wanted :: expected, found :: actual => (wanted, found) :: pairLines expected actual

/-- The pairs that differ, numbered from `line` on. -/
def mismatchesFrom (line : Nat) : List (Text × Text) → List LineMismatch
  | [] => []
  | (wanted, found) :: pairs =>
    if wanted = found then mismatchesFrom (line + 1) pairs
    else ⟨line, wanted, found⟩ :: mismatchesFrom (line + 1) pairs

def diffLines (expected actual : Text) : List LineMismatch :=
  mismatchesFrom 1 (pairLines (Text.splitOn '\n' expected) (Text.splitOn '\n' actual))

structure RoundTrip where
  source : Mode
  via : Mode
  text : Text
  intermediate : Text
  returned : Text
  deriving DecidableEq, Repr

namespace RoundTrip

def run (lexicon : Lexicon) (source via : Mode) (text : Text) : RoundTrip :=
  let intermediate := convert lexicon source via text
  ⟨source, via, text, intermediate, convert lexicon via source intermediate⟩

/-- Whether directional controls do not count. -/
def ignoresMarkup (trip : RoundTrip) : Bool :=
  trip.source.hasMarkup || trip.via.hasMarkup

/-- A text as it counts in the comparison. -/
def compared (trip : RoundTrip) (text : Text) : Text :=
  if trip.ignoresMarkup then Markup.stripControls text else text

def mismatches (trip : RoundTrip) : List LineMismatch :=
  diffLines (trip.compared trip.text) (trip.compared trip.returned)

def succeeded (trip : RoundTrip) : Bool :=
  trip.mismatches.isEmpty

end RoundTrip

end Diglot
