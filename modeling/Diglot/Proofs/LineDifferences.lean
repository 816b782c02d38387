import Diglot.RoundTrip
import Mathlib.Data.List.DropRight
import Mathlib.Data.List.GetD

/-!
# Differences line by line

The line comparison reads a missing line as an empty one, so it cannot see line feeds at the end of
a text and sees everything else. Its mismatches are exactly the line numbers at which the two texts
differ (`mem_diffLines_iff`), in order; there is none exactly if the texts are equal without the
line feeds at their ends; and mending each of them gives the expected text back, again without those
line feeds (`diffLines_complete`).
-/

set_option autoImplicit false

namespace Diglot

namespace Text

def withoutEndFeeds (text : Text) : Text :=
  text.rdropWhile (· = '\n')

/-- The line with a number, counted from one; a missing line is empty. -/
def lineAt (text : Text) (number : Nat) : Text :=
  (splitOn '\n' text).getD (number - 1) []

/-! ## Line feeds at the end -/

theorem withoutEndFeeds_append (text : Text) (feeds : Nat) :
    withoutEndFeeds (text ++ List.replicate feeds '\n') = withoutEndFeeds text := by
  induction feeds with
  | zero => simp
  | succ feeds ih =>
    rw [List.replicate_succ', ← List.append_assoc, withoutEndFeeds,
      List.rdropWhile_concat_pos _ _ _ (by decide)]
    exact ih

/-- What goes from the end of a text are line feeds. -/
theorem exists_endFeeds (text : Text) :
    ∃ feeds, text = withoutEndFeeds text ++ List.replicate feeds '\n' := by
  refine ⟨(text.rtakeWhile (· = '\n')).length, ?_⟩
  have all : text.rtakeWhile (· = '\n') =
      List.replicate (text.rtakeWhile (· = '\n')).length '\n' :=
    List.eq_replicate_iff.2 ⟨rfl, fun c member => by simpa using List.mem_rtakeWhile_imp member⟩
  rw [← all]
  exact List.rdropWhile_append_rtakeWhile.symm

theorem splitOn_concat (separator : Char) (text : Text) :
    splitOn separator (text ++ [separator]) = splitOn separator text ++ [[]] := by
  induction text with
  | nil => simp [splitOn]
  | cons c cs ih =>
    rw [List.cons_append, splitOn, splitOn, ih]
    split
    · rfl
    · cases pieces : splitOn separator cs with
      | nil => exact absurd pieces (splitOn_ne_nil separator cs)
      | cons piece rest => rfl

theorem splitOn_append_replicate (separator : Char) (text : Text) (count : Nat) :
    splitOn separator (text ++ List.replicate count separator) =
      splitOn separator text ++ List.replicate count [] := by
  induction count with
  | zero => simp
  | succ count ih =>
    rw [List.replicate_succ', ← List.append_assoc, splitOn_concat, ih,
      List.replicate_succ', List.append_assoc]

theorem join_concat_nil {lines : List Text} (some : lines ≠ []) :
    join ['\n'] (lines ++ [[]]) = join ['\n'] lines ++ ['\n'] := by
  induction lines with
  | nil => exact absurd rfl some
  | cons line lines ih =>
    cases lines with
    | nil => simp [join]
    | cons next rest => simpa [join] using ih (by simp)

/-- Empty lines at the end are line feeds at the end. -/
theorem join_append_empty {lines : List Text} (some : lines ≠ []) (count : Nat) :
    join ['\n'] (lines ++ List.replicate count []) =
      join ['\n'] lines ++ List.replicate count '\n' := by
  induction count with
  | zero => simp
  | succ count ih =>
    rw [List.replicate_succ', ← List.append_assoc, join_concat_nil (by simp [some]), ih,
      List.replicate_succ', List.append_assoc]

/-! ## Lines that agree where a missing line is empty -/

/-- Lines that agree at every place become the same lines when the shorter are filled up. -/
theorem filled_of_getD_eq {a b : List Text}
    (alike : ∀ place, a.getD place [] = b.getD place []) :
    a ++ List.replicate (b.length - a.length) [] =
      b ++ List.replicate (a.length - b.length) [] := by
  apply List.ext_getElem
  · simp only [List.length_append, List.length_replicate]
    omega
  · intro place _ _
    have same := alike place
    rw [List.getD_eq_getElem?_getD, List.getD_eq_getElem?_getD] at same
    rw [← Option.some_inj, ← List.getElem?_eq_getElem, ← List.getElem?_eq_getElem]
    grind

/-- Texts that agree line by line are equal without the line feeds at their ends. -/
theorem withoutEndFeeds_join_eq {a b : List Text} (someA : a ≠ []) (someB : b ≠ [])
    (alike : ∀ place, a.getD place [] = b.getD place []) :
    withoutEndFeeds (join ['\n'] a) = withoutEndFeeds (join ['\n'] b) := by
  calc withoutEndFeeds (join ['\n'] a)
      = withoutEndFeeds (join ['\n'] (a ++ List.replicate (b.length - a.length) [])) := by
        rw [join_append_empty someA, withoutEndFeeds_append]
    _ = withoutEndFeeds (join ['\n'] (b ++ List.replicate (a.length - b.length) [])) := by
        rw [filled_of_getD_eq alike]
    _ = withoutEndFeeds (join ['\n'] b) := by
        rw [join_append_empty someB, withoutEndFeeds_append]

theorem getD_splitOn_withoutEndFeeds (text : Text) (place : Nat) :
    (splitOn '\n' (withoutEndFeeds text)).getD place [] = (splitOn '\n' text).getD place [] := by
  obtain ⟨feeds, whole⟩ := exists_endFeeds text
  rw [congrArg (splitOn '\n') whole, splitOn_append_replicate]
  grind

/-- Two texts agree line by line exactly if they are equal without the line feeds at their ends. -/
theorem getD_splitOn_eq_iff {a b : Text} :
    (∀ place, (splitOn '\n' a).getD place [] = (splitOn '\n' b).getD place []) ↔
      withoutEndFeeds a = withoutEndFeeds b := by
  constructor
  · intro alike
    have joined := withoutEndFeeds_join_eq (splitOn_ne_nil _ a) (splitOn_ne_nil _ b) alike
    rwa [join_splitOn, join_splitOn] at joined
  · intro same place
    rw [← getD_splitOn_withoutEndFeeds a, same, getD_splitOn_withoutEndFeeds]

end Text

open Text (splitOn join lineAt withoutEndFeeds)

/-! ## The mismatches -/

theorem getD_pairLines (expected actual : List Text) (place : Nat) :
    (pairLines expected actual).getD place ([], []) =
      (expected.getD place [], actual.getD place []) := by
  fun_induction pairLines expected actual generalizing place with
  | case1 actual => simp [List.getD_eq_getElem?_getD, Option.getD_map]
  | case2 expected => simp [List.getD_eq_getElem?_getD, Option.getD_map]
  | case3 wanted expected found actual ih =>
    cases place with
    | zero => rfl
    | succ place => simpa using ih place

theorem mem_mismatchesFrom_iff {start : Nat} {pairs : List (Text × Text)}
    {mismatch : LineMismatch} :
    mismatch ∈ mismatchesFrom start pairs ↔
      ∃ place, mismatch.line = start + place ∧
        pairs.getD place ([], []) = (mismatch.expected, mismatch.actual) ∧
        mismatch.expected ≠ mismatch.actual := by
  induction pairs generalizing start with
  | nil =>
    simp only [mismatchesFrom, List.not_mem_nil, List.getD_nil, Prod.mk.injEq, false_iff]
    rintro ⟨_, -, ⟨wanted, found⟩, differs⟩
    exact differs (wanted.symm.trans found)
  | cons pair pairs ih =>
    obtain ⟨wanted, found⟩ := pair
    -- The mismatch is at the first place or at a later one.
    have places : (∃ place, mismatch.line = start + place ∧
        ((wanted, found) :: pairs).getD place ([], []) = (mismatch.expected, mismatch.actual) ∧
        mismatch.expected ≠ mismatch.actual) ↔
        mismatch = ⟨start, wanted, found⟩ ∧ wanted ≠ found ∨
          mismatch ∈ mismatchesFrom (start + 1) pairs := by
      rw [ih]
      constructor
      · rintro ⟨_ | place, line, same, differs⟩
        · obtain ⟨rfl, rfl⟩ := Prod.mk.inj same
          obtain rfl : mismatch.line = start := line
          exact .inl ⟨rfl, differs⟩
        · exact .inr ⟨place, by omega, same, differs⟩
      · rintro (⟨rfl, differs⟩ | ⟨place, line, same, differs⟩)
        · exact ⟨0, rfl, rfl, differs⟩
        · exact ⟨place + 1, by omega, same, differs⟩
    rw [places, mismatchesFrom]
    split
    · next same => simp [same]
    · next differs => simp [differs]

/-- A mismatch of two texts is a line number at which their lines differ, with the two lines. -/
theorem mem_diffLines_iff {expected actual : Text} {mismatch : LineMismatch} :
    mismatch ∈ diffLines expected actual ↔
      1 ≤ mismatch.line ∧ mismatch.expected = lineAt expected mismatch.line ∧
        mismatch.actual = lineAt actual mismatch.line ∧
        mismatch.expected ≠ mismatch.actual := by
  rw [diffLines, mem_mismatchesFrom_iff]
  simp only [getD_pairLines, Prod.mk.injEq]
  constructor
  · rintro ⟨place, line, ⟨wanted, found⟩, differs⟩
    rw [lineAt, lineAt, line, Nat.add_sub_cancel_left, wanted, found]
    exact ⟨by omega, rfl, rfl, differs⟩
  · rintro ⟨counted, wanted, found, differs⟩
    exact ⟨mismatch.line - 1, by omega, ⟨wanted.symm, found.symm⟩, differs⟩

theorem diffLines_eq_nil_iff_getD {expected actual : Text} :
    diffLines expected actual = [] ↔
      ∀ place, (splitOn '\n' expected).getD place [] = (splitOn '\n' actual).getD place [] := by
  rw [List.eq_nil_iff_forall_not_mem]
  constructor
  · intro none place
    by_contra differs
    exact none ⟨place + 1, lineAt expected (place + 1), lineAt actual (place + 1)⟩
      (mem_diffLines_iff.2 ⟨by simp, rfl, rfl, differs⟩)
  · rintro alike mismatch member
    obtain ⟨-, wanted, found, differs⟩ := mem_diffLines_iff.1 member
    exact differs (by rw [wanted, found, lineAt, lineAt, alike])

theorem pairwise_mismatchesFrom (start : Nat) (pairs : List (Text × Text)) :
    ((mismatchesFrom start pairs).map LineMismatch.line).Pairwise (· < ·) := by
  induction pairs generalizing start with
  | nil => simp [mismatchesFrom]
  | cons pair pairs ih =>
    obtain ⟨wanted, found⟩ := pair
    rw [mismatchesFrom]
    split
    · exact ih (start + 1)
    · rw [List.map_cons, List.pairwise_cons]
      refine ⟨?_, ih (start + 1)⟩
      intro line later
      obtain ⟨mismatch, member, rfl⟩ := List.mem_map.1 later
      obtain ⟨place, line, -⟩ := mem_mismatchesFrom_iff.1 member
      show start < mismatch.line
      omega

/-! ## Mending a text -/

/-- The lines with the expected line in the place of the mismatch; missing lines before it are
filled up with empty ones. -/
def LineMismatch.mend (lines : List Text) (mismatch : LineMismatch) : List Text :=
  (lines ++ List.replicate (mismatch.line - lines.length) []).set (mismatch.line - 1)
    mismatch.expected

def mended (text : Text) (mismatches : List LineMismatch) : Text :=
  join ['\n'] (mismatches.foldl LineMismatch.mend (splitOn '\n' text))

theorem getD_mend {lines : List Text} {mismatch : LineMismatch} (counted : 1 ≤ mismatch.line)
    (place : Nat) :
    (mismatch.mend lines).getD place [] =
      if mismatch.line = place + 1 then mismatch.expected else lines.getD place [] := by
  simp only [LineMismatch.mend, List.getD_eq_getElem?_getD]
  grind

theorem foldl_mend_ne_nil {lines : List Text} (some : lines ≠ []) (mismatches : List LineMismatch) :
    mismatches.foldl LineMismatch.mend lines ≠ [] := by
  induction mismatches generalizing lines with
  | nil => exact some
  | cons mismatch mismatches ih => exact ih (by simp [LineMismatch.mend, some])

/-- Mending gives the wanted line at every place that has it already or is among the mismatches. -/
theorem getD_foldl_mend {wanted lines : List Text} {mismatches : List LineMismatch}
    (quoted : ∀ mismatch ∈ mismatches,
      1 ≤ mismatch.line ∧ mismatch.expected = wanted.getD (mismatch.line - 1) [])
    {place : Nat}
    (reported : lines.getD place [] = wanted.getD place [] ∨
      ∃ mismatch ∈ mismatches, mismatch.line = place + 1) :
    (mismatches.foldl LineMismatch.mend lines).getD place [] = wanted.getD place [] := by
  induction mismatches generalizing lines with
  | nil => simpa using reported
  | cons mismatch mismatches ih =>
    rw [List.forall_mem_cons] at quoted
    obtain ⟨⟨counted, expected⟩, quoted⟩ := quoted
    rw [List.foldl_cons]
    apply ih quoted
    rw [getD_mend counted]
    split
    · next here => exact .inl (by rw [expected, here, Nat.add_sub_cancel])
    · next elsewhere =>
      refine reported.imp_right ?_
      rintro ⟨found, member, line⟩
      rcases List.mem_cons.1 member with rfl | member
      · exact absurd line elsewhere
      · exact ⟨found, member, line⟩

/-- Mending every mismatch of two texts gives the expected one, line feeds at the end apart. -/
theorem mended_diffLines (expected actual : Text) :
    withoutEndFeeds (mended actual (diffLines expected actual)) = withoutEndFeeds expected := by
  have lines : ∀ place, ((diffLines expected actual).foldl LineMismatch.mend
      (splitOn '\n' actual)).getD place [] = (splitOn '\n' expected).getD place [] := by
    intro place
    apply getD_foldl_mend
    · intro mismatch member
      obtain ⟨counted, wanted, -⟩ := mem_diffLines_iff.1 member
      exact ⟨counted, wanted⟩
    · by_cases same : (splitOn '\n' actual).getD place [] = (splitOn '\n' expected).getD place []
      · exact .inl same
      · exact .inr ⟨⟨place + 1, lineAt expected (place + 1), lineAt actual (place + 1)⟩,
          mem_diffLines_iff.2 ⟨by simp, rfl, rfl, Ne.symm same⟩, rfl⟩
  have joined := Text.withoutEndFeeds_join_eq
    (foldl_mend_ne_nil (Text.splitOn_ne_nil _ actual) (diffLines expected actual))
    (Text.splitOn_ne_nil _ expected) lines
  rwa [Text.join_splitOn] at joined

/-- The comparison of two texts finds nothing exactly if they are equal without the line feeds at
their ends. What it finds are the lines that differ, with their numbers in ascending order and both
lines as they are, a missing one as empty; and mending them gives the expected text, line feeds at
the end apart. -/
theorem diffLines_complete (expected actual : Text) :
    (diffLines expected actual = [] ↔ withoutEndFeeds expected = withoutEndFeeds actual) ∧
      ((diffLines expected actual).map LineMismatch.line).Pairwise (· < ·) ∧
      (∀ mismatch, mismatch ∈ diffLines expected actual ↔
        1 ≤ mismatch.line ∧ mismatch.expected = lineAt expected mismatch.line ∧
          mismatch.actual = lineAt actual mismatch.line ∧
          mismatch.expected ≠ mismatch.actual) ∧
      withoutEndFeeds (mended actual (diffLines expected actual)) = withoutEndFeeds expected :=
  ⟨diffLines_eq_nil_iff_getD.trans Text.getD_splitOn_eq_iff,
    pairwise_mismatchesFrom 1 _, fun _ => mem_diffLines_iff, mended_diffLines expected actual⟩

example :
    diffLines "a\nb\n\nc\n".toList "a\nB".toList =
      [⟨2, ['b'], ['B']⟩, ⟨4, ['c'], []⟩] := by decide

end Diglot
