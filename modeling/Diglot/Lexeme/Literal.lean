import Diglot.Lexeme.Cut
import Diglot.Text.Lines

/-!
# String literals

A plain literal stands on one line and may hold interpolations; it is cut into the fragments
between them. A literal with number signs around it, or with three quotes, is verbatim: it is one
piece up to its exact closer, whatever it holds.
-/

set_option autoImplicit false

namespace Diglot.Literal

/-! ## Fragments -/

/-- Whether an interpolation opens here. Localized text also writes the opener with a slash. -/
def opensHere (localized : Bool) : Text → Bool
  | '\\' :: '(' :: _ => true
  | '/' :: '(' :: _ => localized
  | _ => false

/-- A fragment of a plain literal, and whether it ends with the closing quote. -/
structure Fragment where
  cut : Cut
  closed : Bool
  deriving DecidableEq, Repr

/-- The fragment of a text that has `front` before it. -/
def Fragment.after (front : Text) (fragment : Fragment) : Fragment :=
  ⟨fragment.cut.after front, fragment.closed⟩

/-- The body of a plain literal up to the next interpolation, to its closing quote, or to the end
of the line. A backslash takes the next character with it. -/
def fragment (localized : Bool) : Text → Fragment
  | [] => ⟨Cut.nothing [], false⟩
  | [c] =>
    if c = '"' then ⟨⟨[c], []⟩, true⟩
    else if Text.isNewline c then ⟨Cut.nothing [c], false⟩
    else ⟨⟨[c], []⟩, false⟩
  | c :: d :: cs =>
    if opensHere localized (c :: d :: cs) then ⟨Cut.nothing (c :: d :: cs), false⟩
    else if c = '\\' then (fragment localized cs).after [c, d]
    else if c = '"' then ⟨⟨[c], d :: cs⟩, true⟩
    else if Text.isNewline c then ⟨Cut.nothing (c :: d :: cs), false⟩
    else (fragment localized (d :: cs)).after [c]

@[simp] theorem whole_fragment (localized : Bool) (input : Text) :
    (fragment localized input).cut.whole = input := by
  fun_induction fragment localized input <;> simp_all [Fragment.after]

/-! ## Verbatim literals -/

/-- The number of quotes that open a verbatim literal. -/
def quoteCount : Text → Nat
  | '"' :: '"' :: '"' :: _ => 3
  | _ => 1

/-- What ends a verbatim literal. -/
def closer (pounds quotes : Nat) : Text :=
  List.replicate quotes '"' ++ List.replicate pounds '#'

/-- What protects the next character in a verbatim literal. -/
def escape (pounds : Nat) : Text :=
  '\\' :: List.replicate pounds '#'

/-- The body of a verbatim literal and its closer, or all of the text if it is not closed. -/
def verbatimBody (closer escape : Text) : Text → Cut
  | [] => Cut.nothing []
  | c :: cs =>
    if escape.isPrefixOf (c :: cs) then
      (verbatimBody closer escape (cs.drop escape.length)).after (c :: cs.take escape.length)
    else if closer.isPrefixOf (c :: cs) then
      ⟨closer, (c :: cs).drop closer.length⟩
    else
      (verbatimBody closer escape cs).after [c]
termination_by input => input.length
decreasing_by
  · simp only [List.length_drop, List.length_cons]
    omega
  · simp

/-- A verbatim literal that begins here with `pounds` number signs and a quote. -/
def verbatim (pounds : Nat) (input : Text) : Cut :=
  let quotes := quoteCount (input.drop pounds)
  (verbatimBody (closer pounds quotes) (escape pounds) (input.drop (pounds + quotes))).after
    (input.take (pounds + quotes))

@[simp] theorem whole_verbatimBody (closer escape input : Text) :
    (verbatimBody closer escape input).whole = input := by
  fun_induction verbatimBody closer escape input with
  | case1 => rfl
  | case2 c cs _ ih => simp [ih]
  | case3 c cs _ closes =>
    obtain ⟨tail, same⟩ := List.isPrefixOf_iff_prefix.1 closes
    rw [← same]
    simp
  | case4 c cs _ _ ih => simp [ih]

@[simp] theorem whole_verbatim (pounds : Nat) (input : Text) :
    (verbatim pounds input).whole = input := by
  simp [verbatim]

/-- A verbatim literal holds at least its opening quote. -/
theorem verbatim_taken_ne_nil (pounds : Nat) (c : Char) (cs : Text) :
    (verbatim pounds (c :: cs)).taken ≠ [] := by
  have opened : 0 < quoteCount ((c :: cs).drop pounds) := by
    rw [quoteCount.eq_def]
    split <;> simp
  obtain ⟨n, step⟩ : ∃ n, pounds + quoteCount ((c :: cs).drop pounds) = n + 1 :=
    ⟨pounds + quoteCount ((c :: cs).drop pounds) - 1, by omega⟩
  simp [verbatim, Cut.after, step]

end Diglot.Literal
