/-!
# Ascending lists

A finite set is kept as an ascending list without repetition. It grows by `insertAscending`, and
`ascending` makes one of any list.
-/

set_option autoImplicit false

namespace Diglot

variable {α : Type} [LT α] [DecidableLT α] [DecidableEq α]

/-- Puts a value into its place in an ascending list, once. -/
def insertAscending (value : α) : List α → List α
  | [] => [value]
  | other :: others =>
    if value < other then value :: other :: others
    else if value = other then other :: others
    else other :: insertAscending value others

/-- The values in ascending order, each once. -/
def ascending (values : List α) : List α :=
  values.foldr insertAscending []

/-- Insertion adds the value and nothing else. -/
theorem mem_insertAscending {value x : α} {values : List α} :
    x ∈ insertAscending value values ↔ x = value ∨ x ∈ values := by
  induction values with
  | nil => simp [insertAscending]
  | cons other others ih =>
    rw [insertAscending]
    split
    · simp
    · split
      · next same => simp [same]
      · simp only [List.mem_cons, ih]
        exact or_left_comm

/-- The ascending list has the same members. -/
theorem mem_ascending {x : α} {values : List α} : x ∈ ascending values ↔ x ∈ values := by
  induction values with
  | nil => simp [ascending]
  | cons value values ih =>
    rw [ascending, List.foldr_cons, mem_insertAscending, List.mem_cons]
    exact or_congr_right ih

end Diglot
