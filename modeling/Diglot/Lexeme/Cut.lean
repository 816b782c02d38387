import Diglot.Text.Basic

/-!
# Cuts

A cut parts the front of a text from its rest. Every scanner of this library returns a cut of its
input, and one equation per scanner, `whole_…`, says that nothing of the input is lost.
-/

set_option autoImplicit false

namespace Diglot

/-- The front that was taken and the rest that was left. -/
structure Cut where
  taken : Text
  rest : Text
  deriving DecidableEq, Repr

namespace Cut

def whole (cut : Cut) : Text :=
  cut.taken ++ cut.rest

def nothing (input : Text) : Cut :=
  ⟨[], input⟩

/-- Takes the longest front whose characters all satisfy `p`. -/
def span (p : Char → Bool) (input : Text) : Cut :=
  ⟨input.takeWhile p, input.dropWhile p⟩

/-- The cut of a text that has `front` before it, with `front` taken too. -/
def after (front : Text) (cut : Cut) : Cut :=
  ⟨front ++ cut.taken, cut.rest⟩

/-- Goes on cutting the rest. -/
def andThen (cut : Cut) (next : Text → Cut) : Cut :=
  (next cut.rest).after cut.taken

@[simp] theorem whole_mk (taken rest : Text) : whole ⟨taken, rest⟩ = taken ++ rest := rfl

@[simp] theorem whole_nothing (input : Text) : (nothing input).whole = input := rfl

@[simp] theorem whole_span (p : Char → Bool) (input : Text) : (span p input).whole = input :=
  List.takeWhile_append_dropWhile

@[simp] theorem whole_after (front : Text) (cut : Cut) :
    (cut.after front).whole = front ++ cut.whole := by
  simp [after, whole]

theorem whole_andThen {next : Text → Cut} (h : ∀ input, (next input).whole = input) (cut : Cut) :
    (cut.andThen next).whole = cut.whole := by
  rw [andThen, whole_after, h, whole]

end Cut

end Diglot
