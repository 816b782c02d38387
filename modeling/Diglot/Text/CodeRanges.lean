/-!
# Ranges of code points

A set of characters given by ascending closed ranges of code points. The search stops at the first
range that begins after the character, so a membership test reads no more of the table than it
needs.
-/

set_option autoImplicit false

namespace Diglot.Text

/-- Closed ranges of code points, ascending and apart. -/
abbrev CodeRanges := List (Nat × Nat)

/-- Whether some range holds the code point. -/
def CodeRanges.coversCode : CodeRanges → Nat → Bool
  | [], _ => false
  | (low, high) :: ranges, n =>
    if n < low then false
    else if n ≤ high then true
    else coversCode ranges n

/-- Whether some range holds the character. -/
def CodeRanges.covers (ranges : CodeRanges) (c : Char) : Bool :=
  ranges.coversCode c.toNat

/-- What the search finds lies in a range of the table. -/
theorem CodeRanges.exists_of_coversCode {ranges : CodeRanges} {n : Nat}
    (h : ranges.coversCode n = true) : ∃ r ∈ ranges, r.1 ≤ n ∧ n ≤ r.2 := by
  induction ranges with
  | nil => simp [coversCode] at h
  | cons r ranges ih =>
    obtain ⟨low, high⟩ := r
    rw [coversCode] at h
    split at h
    · simp at h
    · next above =>
      split at h
      · next below => exact ⟨(low, high), by simp, by simpa using above, below⟩
      · obtain ⟨r, member, holds⟩ := ih h
        exact ⟨r, by simp [member], holds⟩

end Diglot.Text
