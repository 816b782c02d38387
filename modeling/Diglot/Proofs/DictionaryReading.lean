import Diglot.Proofs.DictionaryEntries
import Diglot.Workspace.Dictionary

/-!
# What a project dictionary says

A dictionary is read in one pass that carries along whether it is inside the section of identifiers.
The meaning of a line can be told without the pass, by looking back: an indented line that counts
belongs to the nearest line before it that counts and is not indented (`InSection`). The pass finds
exactly the entries of the lines that belong to a section header, and its warning depends only on
the last line that declares a tier; lines that do not count may stand anywhere
(`dictionary_reading`).
-/

set_option autoImplicit false

namespace Diglot.Dictionary

/-! ## The meaning of a line -/

/-- The line counts: without blanks at its ends it is not empty and does not start with a number
sign. -/
def Significant (line : Text) : Prop :=
  Text.strip line ≠ [] ∧ (Text.strip line).head? ≠ some '#'

def Indented (line : Text) : Prop :=
  line.head? = some ' ' ∨ line.head? = some '\t'

def Marginal (line : Text) : Prop :=
  Significant line ∧ ¬Indented line

/-- The last marginal line among those before opens the section of identifiers. -/
def InSection (before : List Text) : Prop :=
  ∃ front header between, before = front ++ header :: between ∧ Marginal header ∧
    sectionHeader <+: header ∧ ∀ line ∈ between, ¬Marginal line

/-- A line after others is a line of the section of identifiers. -/
def Listed (before : List Text) (line : Text) : Prop :=
  Significant line ∧ Indented line ∧ InSection before

/-- A text up to its first remark. -/
def UpToRemark (text part : Text) : Prop :=
  ¬remark <:+: part ∧ (text = part ∨ ∃ rest, text = part ++ remark ++ rest)

/-- The entry that a line spells: what stands before its first colon, and what stands after it up to
a remark, both without blanks at their ends and neither empty. -/
def Spells (line : Text) (entry : Entry) : Prop :=
  ∃ front back part, Text.strip line = front ++ ':' :: back ∧ ':' ∉ front ∧ UpToRemark back part ∧
    entry = ⟨Text.strip front, Text.strip part⟩ ∧ entry.localized ≠ [] ∧ entry.primary ≠ []

instance (line : Text) : Decidable (Significant line) :=
  inferInstanceAs (Decidable (_ ∧ _))

instance (line : Text) : Decidable (Indented line) :=
  inferInstanceAs (Decidable (_ ∨ _))

instance (line : Text) : Decidable (Marginal line) :=
  inferInstanceAs (Decidable (_ ∧ _))

theorem isSignificant_eq_true_iff {line : Text} : isSignificant line = true ↔ Significant line :=
  isSignificant_iff

theorem isIndented_eq_true_iff {line : Text} : isIndented line = true ↔ Indented line := by
  cases line <;> simp [isIndented, Indented]

/-! ## The entry that a line spells -/

theorem cutAt_remark {part : Text} (none : ¬remark <:+: part) (rest : Text) :
    Text.cutAt remark (part ++ remark ++ rest) = some (part, rest) := by
  induction part with
  | nil => simp [remark, Text.cutAt, List.isPrefixOf]
  | cons c part ih =>
    rw [List.infix_cons_iff, not_or] at none
    -- No remark starts at `c`: it would end in `part`, or its number sign would be a blank.
    have later : ¬remark <+: c :: (part ++ remark ++ rest) := by
      cases part with
      | nil => simp [remark]
      | cons d part => simpa [remark] using none.1
    rw [List.cons_append, List.cons_append, Text.cutAt,
      if_neg fun starts => later (List.isPrefixOf_iff_prefix.1 starts), ih none.2]
    rfl

theorem before_remark_eq_iff {text part : Text} :
    Text.before remark text = part ↔ UpToRemark text part := by
  constructor
  · rintro rfl
    refine ⟨Text.not_isInfix_before (by decide), ?_⟩
    rw [Text.before]
    split
    · next front back found => exact .inr ⟨back, Text.cutAt_eq_some found⟩
    · exact .inl rfl
  · rintro ⟨none, rfl | ⟨rest, rfl⟩⟩
    · exact Text.before_eq_self none
    · rw [Text.before, cutAt_remark none]

theorem entryOfLine?_eq_some_iff {line : Text} {entry : Entry} :
    entryOfLine? line = some entry ↔ Spells line entry := by
  constructor
  · intro read
    obtain ⟨front, back, cut, localized, primary, filled⟩ := entryOfLine?_eq_some read
    refine ⟨front, back, Text.before remark back, ?_, Text.not_mem_of_cutAt cut,
      before_remark_eq_iff.1 rfl, ?_, filled⟩
    · simpa using Text.cutAt_eq_some cut
    · rw [← localized, ← withoutRemark, ← primary]
  · rintro ⟨front, back, part, whole, noColon, upTo, rfl, someLocalized, somePrimary⟩
    rw [entryOfLine?, whole, Text.cutAt_char noColon]
    simp only [withoutRemark, before_remark_eq_iff.2 upTo]
    rw [if_neg (by simp [someLocalized, somePrimary])]

/-! ## Looking back -/

theorem not_inSection_nil : ¬InSection [] := by
  rintro ⟨front, header, between, same, -⟩
  simp at same

/-- One more line: a marginal line decides by itself, and every other line changes nothing. -/
theorem inSection_concat_iff {before : List Text} {line : Text} :
    InSection (before ++ [line]) ↔
      if Marginal line then sectionHeader <+: line else InSection before := by
  constructor
  · rintro ⟨front, header, between, same, marginal, opens, noneBetween⟩
    rcases List.eq_nil_or_concat' between with rfl | ⟨between, last, rfl⟩
    · obtain ⟨rfl, rfl⟩ : before = front ∧ line = header := by simpa using same
      rwa [if_pos marginal]
    · have split : before ++ [line] = (front ++ header :: between) ++ [last] := by simpa using same
      obtain ⟨rfl, ends⟩ := List.append_inj' split rfl
      obtain rfl := List.singleton_inj.1 ends
      rw [if_neg (noneBetween line (by simp))]
      exact ⟨front, header, between, rfl, marginal, opens,
        fun other member => noneBetween other (List.mem_append_left _ member)⟩
  · split
    · next marginal => exact fun opens => ⟨before, line, [], rfl, marginal, opens, by simp⟩
    · next inner =>
      rintro ⟨front, header, between, rfl, marginal, opens, noneBetween⟩
      refine ⟨front, header, between ++ [line], by simp, marginal, opens, ?_⟩
      intro other member
      rcases List.mem_append.1 member with member | member
      · exact noneBetween other member
      · rwa [List.mem_singleton.1 member]

/-! ## The pass over the lines -/

/-- Whether the pass is inside the section after some significant lines. -/
def insideAfter (inside : Bool) (lines : List Text) : Bool :=
  lines.foldl (fun inside line => if isIndented line then inside else sectionHeader.isPrefixOf line)
    inside

theorem sectionEntries_append (inside : Bool) (front back : List Text) :
    sectionEntries inside (front ++ back) =
      sectionEntries inside front ++ sectionEntries (insideAfter inside front) back := by
  induction front generalizing inside with
  | nil => rfl
  | cons line front ih =>
    rw [List.cons_append, sectionEntries, sectionEntries, insideAfter, List.foldl_cons,
      ← insideAfter]
    split
    · split
      · rw [ih, List.append_assoc]
      · exact ih inside
    · exact ih _

/-- What the pass carries along is what looking back finds. -/
theorem insideAfter_eq_true_iff (lines : List Text) :
    insideAfter false (lines.filter isSignificant) = true ↔ InSection lines := by
  induction lines using List.reverseRecOn with
  | nil => simp [insideAfter, not_inSection_nil]
  | append_singleton front line ih =>
    rw [inSection_concat_iff, List.filter_append]
    by_cases significant : isSignificant line = true
    · by_cases indented : isIndented line = true
      · rw [if_neg fun marginal => marginal.2 (isIndented_eq_true_iff.1 indented), ← ih]
        simp [insideAfter, significant, indented]
      · rw [if_pos ⟨isSignificant_eq_true_iff.1 significant, mt isIndented_eq_true_iff.2 indented⟩]
        simp [insideAfter, significant, indented]
    · rw [if_neg fun marginal => significant (isSignificant_eq_true_iff.2 marginal.1), ← ih]
      simp [significant]

instance (before : List Text) : Decidable (InSection before) :=
  decidable_of_iff _ (insideAfter_eq_true_iff before)

instance (before : List Text) (line : Text) : Decidable (Listed before line) :=
  inferInstanceAs (Decidable (_ ∧ _ ∧ _))

def listedEntries (lines : List Text) : List Entry :=
  lines.zipIdx.filterMap fun placed =>
    if Listed (lines.take placed.2) placed.1 then entryOfLine? placed.1 else none

theorem listedEntries_concat (front : List Text) (line : Text) :
    listedEntries (front ++ [line]) =
      listedEntries front ++ if Listed front line then (entryOfLine? line).toList else [] := by
  rw [listedEntries, List.zipIdx_append, List.filterMap_append]
  congr 1
  · refine List.filterMap_congr ?_
    rintro ⟨earlier, place⟩ member
    have inFront : place < front.length := by simpa using List.snd_lt_of_mem_zipIdx member
    simp only [List.take_append_of_le_length inFront.le]
  · by_cases listed : Listed front line
    · cases read : entryOfLine? line <;> simp [listed, read]
    · simp [listed]

theorem sectionEntries_eq_listedEntries (lines : List Text) :
    sectionEntries false (lines.filter isSignificant) = listedEntries lines := by
  induction lines using List.reverseRecOn with
  | nil => rfl
  | append_singleton front line ih =>
    rw [List.filter_append, sectionEntries_append, ih, listedEntries_concat]
    congr 1
    by_cases significant : isSignificant line = true
    · by_cases indented : isIndented line = true
      · by_cases inside : InSection front
        · rw [if_pos ⟨isSignificant_eq_true_iff.1 significant, isIndented_eq_true_iff.1 indented,
            inside⟩, (insideAfter_eq_true_iff front).2 inside]
          simp [significant, sectionEntries, indented]
        · have outside := Bool.eq_false_iff.2 (mt (insideAfter_eq_true_iff front).1 inside)
          rw [if_neg fun listed => inside listed.2.2, outside]
          simp [significant, sectionEntries, indented]
      · rw [if_neg fun listed => indented (isIndented_eq_true_iff.2 listed.2.1)]
        simp [significant, sectionEntries, indented]
    · rw [if_neg fun listed => significant (isSignificant_eq_true_iff.2 listed.1)]
      simp [significant, sectionEntries]

/-! ## The declared tier -/

/-- The last significant line that declares a tier. -/
def lastTierLine? (lines : List Text) : Option Text :=
  (lines.filter fun line => Significant line ∧ tierHeader <+: line).getLast?

/-- The warnings about a dictionary whose tier is declared by a line or by none. -/
def tierWarnings (line : Option Text) : List Event :=
  match line with
  | none => [.tierUndeclared]
  | some line =>
    let tier := withoutRemark (line.drop tierHeader.length)
    if tier = projectTier then [] else [.otherTierDeclared tier]

theorem lineTier?_eq (line : Text) :
    lineTier? line = if tierHeader <+: line then some (withoutRemark (line.drop tierHeader.length))
      else none := by
  by_cases declares : tierHeader <+: line
  · have margin : isIndented line = false := by
      obtain ⟨rest, rfl⟩ := declares
      rfl
    rw [lineTier?, margin, Text.after?, List.isPrefixOf_iff_prefix.2 declares, if_pos declares]
    rfl
  · have other : tierHeader.isPrefixOf line = false :=
      Bool.eq_false_iff.2 (mt List.isPrefixOf_iff_prefix.1 declares)
    rw [lineTier?, Text.after?, other, if_neg declares]
    simp

theorem declaredTier?_eq (text : Text) :
    declaredTier? text = (lastTierLine? (Text.lines text)).map fun line =>
      withoutRemark (line.drop tierHeader.length) := by
  rw [declaredTier?, significantLines, lastTierLine?, ← List.getLast?_map]
  congr 1
  induction Text.lines text with
  | nil => rfl
  | cons line lines ih =>
    by_cases significant : Significant line
    · rw [List.filter_cons_of_pos (isSignificant_eq_true_iff.2 significant), List.filterMap_cons,
        lineTier?_eq, ih]
      by_cases declares : tierHeader <+: line <;> simp [significant, declares]
    · rw [List.filter_cons_of_neg (mt isSignificant_eq_true_iff.1 significant), ih]
      simp [significant]

/-! ## Lines that do not count -/

theorem significantLines_append {front : Text} (ends : front.EndsLine) (back : Text) :
    significantLines (front ++ back) = significantLines front ++ significantLines back := by
  have skips : isSignificant [] = false := rfl
  unfold significantLines
  rw [Text.filter_lines skips, Text.filter_lines skips, Text.filter_lines skips,
    Text.filledLines_append_of_endsLine ends, List.filter_append]

/-- Lines that do not count may stand wherever a line ends. -/
theorem significantLines_insert {front filler back : Text} (ends : front.EndsLine)
    (closed : filler.EndsLine ∨ back = [])
    (idle : ∀ line ∈ Text.lines filler, ¬Significant line) :
    significantLines (front ++ filler ++ back) = significantLines (front ++ back) := by
  have none : significantLines filler = [] :=
    List.filter_eq_nil_iff.2 fun line member => mt isSignificant_eq_true_iff.1 (idle line member)
  rw [List.append_assoc, significantLines_append ends, significantLines_append ends]
  rcases closed with closed | rfl
  · rw [significantLines_append closed, none, List.nil_append]
  · rw [List.append_nil, none]
    rfl

theorem on_parseProject (text : Text) (workspace : Workspace) :
    (Session.parseProject text).on workspace =
      (.ok (listedEntries (Text.lines text)),
        { workspace with
          events := workspace.events ++ tierWarnings (lastTierLine? (Text.lines text)) }) := by
  rw [← sectionEntries_eq_listedEntries, ← significantLines, ← entries, Session.parseProject,
    declaredTier?_eq]
  cases lastTierLine? (Text.lines text) with
  | none => rfl
  | some line =>
    by_cases project : withoutRemark (line.drop tierHeader.length) = projectTier
    · simp only [tierWarnings, Option.map_some, ne_eq, project, not_true_eq_false, if_false,
        if_true, List.append_nil]
      rfl
    · simp only [tierWarnings, Option.map_some, ne_eq, project, not_false_eq_true, if_true,
        if_false]
      rfl

/-- A dictionary gives the entries of the lines that are listed, in order, and a warning that only
depends on the last line that declares a tier. The entry of a line is the one that it spells. Lines
that do not count change nothing, wherever between other lines they stand. -/
theorem dictionary_reading :
    (∀ (text : Text) (workspace : Workspace),
      (Session.parseProject text).on workspace =
        (.ok (listedEntries (Text.lines text)),
          { workspace with
            events := workspace.events ++ tierWarnings (lastTierLine? (Text.lines text)) })) ∧
    (∀ (line : Text) (entry : Entry), entryOfLine? line = some entry ↔ Spells line entry) ∧
    ∀ front filler back : Text, front.EndsLine → filler.EndsLine ∨ back = [] →
      (∀ line ∈ Text.lines filler, ¬Significant line) →
      Session.parseProject (front ++ filler ++ back) = Session.parseProject (front ++ back) := by
  refine ⟨on_parseProject, fun _ _ => entryOfLine?_eq_some_iff, ?_⟩
  intro front filler back ends closed idle
  unfold Session.parseProject declaredTier? entries
  rw [significantLines_insert ends closed idle]

/-- A blank line and two comments between the carriage return and the line feed of a line end. -/
theorem dictionary_reading_commented :
    let front : Text := "tier: project\nidentifiers:\u2028  ש : a#b # c\r".toList
    let filler : Text := "# note\n \t\u2028\t# note: more\n".toList
    let back : Text := "\n\tם:c:d\nversion: 2\n  ן: e".toList
    front.EndsLine ∧ filler.EndsLine ∧ (∀ line ∈ Text.lines filler, ¬Significant line) ∧
      ((Session.parseProject (front ++ filler ++ back)).on { tree := .empty }).1.toOption =
        some [⟨['ש'], "a#b".toList⟩, ⟨['ם'], "c:d".toList⟩] := by
  intro front filler back
  have ends : front.EndsLine := by decide +kernel
  have closed : filler.EndsLine := by decide +kernel
  have idle : ∀ line ∈ Text.lines filler, ¬Significant line := by decide +kernel
  refine ⟨ends, closed, idle, ?_⟩
  rw [dictionary_reading.2.2 front filler back ends (.inl closed) idle, dictionary_reading.1]
  have listed : listedEntries (Text.lines (front ++ back)) =
    [⟨['ש'], "a#b".toList⟩, ⟨['ם'], "c:d".toList⟩] := by decide +kernel
  rw [listed]
  rfl

end Diglot.Dictionary
