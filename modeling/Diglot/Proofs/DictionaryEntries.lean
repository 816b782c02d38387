import Diglot.Dictionary.Library
import Diglot.Dictionary.Project
import Diglot.Proofs.TextPieces

/-!
# Entries and the lines that hold them

What a project dictionary can say. Every entry that is read from a dictionary is `Readable`: its
symbols are stripped, stand on one line and hold no mark that would end them. Not every readable
entry can be written: between the colon and a primary symbol a blank is written, and a blank with a
number sign after it starts a remark. An entry that is written and read back is `Representable`, and
written entries are read back exactly if all of them are (`entries_render_iff`).
-/

set_option autoImplicit false

namespace Diglot

open Text (isBlank isLineBreak)

/-- An entry as a project dictionary can give it. -/
structure Entry.Readable (entry : Entry) : Prop where
  localized_ne_nil : entry.localized ≠ []
  primary_ne_nil : entry.primary ≠ []
  localized_strip : Text.strip entry.localized = entry.localized
  primary_strip : Text.strip entry.primary = entry.primary
  localized_oneLine : ∀ c ∈ entry.localized, isLineBreak c = false
  primary_oneLine : ∀ c ∈ entry.primary, isLineBreak c = false
  localized_noColon : ':' ∉ entry.localized
  localized_noComment : entry.localized.head? ≠ some '#'
  primary_noRemark : ¬[' ', '#'] <:+: entry.primary

/-- An entry that a project dictionary can hold: as `Readable`, and the primary symbol does not
start with a number sign. -/
structure Entry.Representable (entry : Entry) : Prop extends entry.Readable where
  primary_noComment : entry.primary.head? ≠ some '#'

theorem all_unbroken_iff {text : Text} :
    text.all (!isLineBreak ·) = true ↔ ∀ c ∈ text, isLineBreak c = false := by
  simp only [List.all_eq_true, Bool.not_eq_true']

instance (entry : Entry) : Decidable entry.Readable :=
  decidable_of_iff
    (entry.localized ≠ [] ∧ entry.primary ≠ [] ∧ Text.strip entry.localized = entry.localized ∧
      Text.strip entry.primary = entry.primary ∧ entry.localized.all (!isLineBreak ·) = true ∧
      entry.primary.all (!isLineBreak ·) = true ∧ ':' ∉ entry.localized ∧
      entry.localized.head? ≠ some '#' ∧ ¬[' ', '#'] <:+: entry.primary)
    ⟨fun ⟨a, b, c, d, e, f, g, h, i⟩ =>
        ⟨a, b, c, d, all_unbroken_iff.1 e, all_unbroken_iff.1 f, g, h, i⟩,
      fun ⟨a, b, c, d, e, f, g, h, i⟩ =>
        ⟨a, b, c, d, all_unbroken_iff.2 e, all_unbroken_iff.2 f, g, h, i⟩⟩

instance (entry : Entry) : Decidable entry.Representable :=
  decidable_of_iff (entry.Readable ∧ entry.primary.head? ≠ some '#')
    ⟨fun ⟨readable, noComment⟩ => ⟨readable, noComment⟩,
      fun representable => ⟨representable.toReadable, representable.primary_noComment⟩⟩

namespace Dictionary

variable {text line : Text} {entry : Entry}

/-! ## What is read -/

theorem exists_line_of_mem_sectionEntries {inside : Bool} {lines : List Text}
    (member : entry ∈ sectionEntries inside lines) :
    ∃ line ∈ lines, entryOfLine? line = some entry := by
  induction lines generalizing inside with
  | nil => simp [sectionEntries] at member
  | cons line lines ih =>
    have later {inside : Bool} (member : entry ∈ sectionEntries inside lines) :
        ∃ found ∈ line :: lines, entryOfLine? found = some entry := by
      obtain ⟨found, inLines, read⟩ := ih member
      exact ⟨found, List.mem_cons_of_mem _ inLines, read⟩
    rw [sectionEntries] at member
    split at member
    · split at member
      · rcases List.mem_append.1 member with here | member
        · exact ⟨line, by simp, Option.mem_toList.1 here⟩
        · exact later member
      · exact later member
    · exact later member

/-- Every entry stands on a significant line. -/
theorem exists_line_of_mem_entries (member : entry ∈ entries text) :
    ∃ line ∈ Text.lines text, isSignificant line = true ∧ entryOfLine? line = some entry := by
  obtain ⟨line, significant, read⟩ := exists_line_of_mem_sectionEntries member
  obtain ⟨inLines, significant⟩ := List.mem_filter.1 significant
  exact ⟨line, inLines, significant, read⟩

theorem entryOfLine?_eq_some (read : entryOfLine? line = some entry) :
    ∃ front back, Text.cutAt [':'] (Text.strip line) = some (front, back) ∧
      entry.localized = Text.strip front ∧ entry.primary = withoutRemark back ∧
      entry.localized ≠ [] ∧ entry.primary ≠ [] := by
  rw [entryOfLine?] at read
  split at read
  · simp at read
  · next front back cut =>
    dsimp only at read
    split at read
    · simp at read
    · next filled =>
      obtain rfl := Option.some.inj read
      simp only [Bool.or_eq_true, List.isEmpty_iff, not_or] at filled
      exact ⟨front, back, cut, rfl, rfl, filled⟩

theorem isSignificant_iff :
    isSignificant line = true ↔
      Text.strip line ≠ [] ∧ (Text.strip line).head? ≠ some '#' := by
  rw [isSignificant]
  split
  · next none => simp [none]
  · next c cs same => simp [same]

/-- The localized symbol of a line starts as the line does behind its blanks. -/
theorem head?_localized {front back : Text}
    (cut : Text.cutAt [':'] (Text.strip line) = some (front, back))
    (filled : Text.strip front ≠ []) : (Text.strip front).head? = (Text.strip line).head? := by
  have someFront : front ≠ [] := by
    rintro rfl
    exact filled rfl
  have same : (Text.strip line).head? = front.head? := by
    rw [Text.cutAt_eq_some cut, List.append_assoc, List.head?_append_of_ne_nil _ someFront]
  have unblank := (Text.strip_eq_self_iff.1 (Text.strip_strip line)).1
  rw [same] at unblank
  rw [Text.head?_strip filled, Text.dropWhile_isBlank unblank, same]

/-- Every entry of a dictionary is readable. -/
theorem readable_of_mem_entries (member : entry ∈ entries text) : entry.Readable := by
  obtain ⟨line, inLines, significant, read⟩ := exists_line_of_mem_entries member
  obtain ⟨front, back, cut, localized, primary, someLocalized, somePrimary⟩ :=
    entryOfLine?_eq_some read
  have split := Text.cutAt_eq_some cut
  have oneLine {piece : Text} (inStripped : piece <:+: Text.strip line) :
      ∀ c ∈ piece, isLineBreak c = false := fun c inPiece =>
    Text.isLineBreak_of_mem_lines inLines c
      ((inStripped.trans (Text.strip_isInfix line)).mem inPiece)
  have inFront : entry.localized <:+: front := localized ▸ Text.strip_isInfix front
  have inBack : entry.primary <:+: Text.before remark back := primary ▸ Text.strip_isInfix _
  refine ⟨someLocalized, somePrimary, ?_, ?_, ?_, ?_, ?_, ?_, ?_⟩
  · rw [localized, Text.strip_strip]
  · rw [primary, withoutRemark, Text.strip_strip]
  · apply oneLine
    rw [split, List.append_assoc]
    exact inFront.trans (List.prefix_append _ _).isInfix
  · apply oneLine
    rw [split]
    exact (inBack.trans (Text.before_isPrefix _ _).isInfix).trans (List.suffix_append _ _).isInfix
  · exact fun colon => Text.not_mem_of_cutAt cut (inFront.mem colon)
  · rw [localized, head?_localized cut (localized ▸ someLocalized)]
    exact (isSignificant_iff.1 significant).2
  · exact fun inPrimary => Text.not_isInfix_before (by decide) (inPrimary.trans inBack)

/-! ## What is written -/

/-- The line of an entry without its line feed. -/
def entryText (entry : Entry) : Text :=
  ' ' :: ' ' :: entry.localized ++ ':' :: ' ' :: entry.primary

theorem entryLine_eq (entry : Entry) : entryLine entry = entryText entry ++ ['\n'] := by
  simp [entryLine, entryLineOf, entryText]

theorem isLineBreak_entryText (readable : entry.Readable) :
    ∀ c ∈ entryText entry, isLineBreak c = false := by
  intro c member
  simp only [entryText, List.cons_append, List.mem_cons, List.mem_append] at member
  rcases member with rfl | rfl | member | rfl | rfl | member
  · decide
  · decide
  · exact readable.localized_oneLine c member
  · decide
  · decide
  · exact readable.primary_oneLine c member

theorem lines_entryLines {entries : List Entry} (readable : ∀ entry ∈ entries, entry.Readable) :
    Text.lines (entries.flatMap entryLine) = entries.map entryText := by
  induction entries with
  | nil => rfl
  | cons entry entries ih =>
    rw [List.flatMap_cons, entryLine_eq, List.append_assoc, List.singleton_append,
      Text.lines_append_feed (isLineBreak_entryText (readable entry (by simp))),
      ih fun entry member => readable entry (List.mem_cons_of_mem _ member), List.map_cons]

def tierLine : Text :=
  tierHeader ++ ' ' :: projectTier

theorem render_eq (entries : List Entry) :
    render entries =
      tierLine ++ '\n' :: (sectionHeader ++ '\n' :: entries.flatMap entryLine) := rfl

theorem lines_render {entries : List Entry} (readable : ∀ entry ∈ entries, entry.Readable) :
    Text.lines (render entries) = tierLine :: sectionHeader :: entries.map entryText := by
  rw [render_eq, Text.lines_append_feed (all_unbroken_iff.1 (by decide)),
    Text.lines_append_feed (all_unbroken_iff.1 (by decide)), lines_entryLines readable]

theorem strip_entryText (readable : entry.Readable) :
    Text.strip (entryText entry) = entry.localized ++ ':' :: ' ' :: entry.primary := by
  have first := (Text.strip_eq_self_iff.1 readable.localized_strip).1
  have last := (Text.strip_eq_self_iff.1 readable.primary_strip).2
  have start : (entryText entry).dropWhile isBlank =
      (entry.localized ++ ':' :: ' ' :: entry.primary).dropWhile isBlank := by
    simp [entryText, show isBlank ' ' = true by decide]
  rw [Text.strip, start, Text.dropWhile_isBlank, Text.stripRight_eq_self]
  · rw [List.getLast?_append, List.getLast?_cons_cons,
      List.getLast?_cons_of_ne_nil readable.primary_ne_nil]
    simpa [readable.primary_ne_nil] using last
  · rw [List.head?_append_of_ne_nil _ readable.localized_ne_nil]
    exact first

theorem isSignificant_entryText (readable : entry.Readable) :
    isSignificant (entryText entry) = true := by
  rw [isSignificant_iff, strip_entryText readable,
    List.head?_append_of_ne_nil _ readable.localized_ne_nil]
  exact ⟨by simp, readable.localized_noComment⟩

theorem significantLines_render {entries : List Entry}
    (readable : ∀ entry ∈ entries, entry.Readable) :
    significantLines (render entries) = tierLine :: sectionHeader :: entries.map entryText := by
  rw [significantLines, lines_render readable, List.filter_eq_self]
  intro line member
  rcases List.mem_cons.1 member with rfl | member
  · decide
  · rcases List.mem_cons.1 member with rfl | member
    · decide
    · obtain ⟨entry, inEntries, rfl⟩ := List.mem_map.1 member
      exact isSignificant_entryText (readable entry inEntries)

/-- The blank before a primary symbol makes a remark of one that starts with a number sign. -/
theorem withoutRemark_blank (readable : entry.Readable) :
    withoutRemark (' ' :: entry.primary) =
      if entry.primary.head? = some '#' then [] else entry.primary := by
  split
  · next sign =>
    obtain ⟨tail, same⟩ := List.head?_eq_some_iff.1 sign
    rw [same]
    rfl
  · next noSign =>
    have noRemark : ¬remark <:+: ' ' :: entry.primary := by
      rw [List.infix_cons_iff, not_or]
      refine ⟨?_, readable.primary_noRemark⟩
      rintro ⟨tail, same⟩
      exact noSign (by simp [← (List.cons.inj same).2])
    rw [withoutRemark, Text.before_eq_self noRemark]
    have stripped := readable.primary_strip
    rw [Text.strip] at stripped ⊢
    simpa [show isBlank ' ' = true by decide] using stripped

/-- A written entry is read back unless its primary symbol starts with a number sign; then its line
has no entry. -/
theorem entryOfLine?_entryText (readable : entry.Readable) :
    entryOfLine? (entryText entry) =
      if entry.primary.head? = some '#' then none else some entry := by
  rw [entryOfLine?, strip_entryText readable, Text.cutAt_char readable.localized_noColon]
  simp only [readable.localized_strip, withoutRemark_blank readable]
  split
  · simp
  · simp [readable.localized_ne_nil, readable.primary_ne_nil]

theorem sectionEntries_entryTexts {entries : List Entry}
    (readable : ∀ entry ∈ entries, entry.Readable) :
    sectionEntries true (entries.map entryText) =
      entries.filter fun entry => entry.primary.head? ≠ some '#' := by
  induction entries with
  | nil => rfl
  | cons entry entries ih =>
    have indented : isIndented (entryText entry) = true := rfl
    rw [List.map_cons, sectionEntries, if_pos indented, if_pos rfl,
      entryOfLine?_entryText (readable entry (by simp)),
      ih fun entry member => readable entry (List.mem_cons_of_mem _ member)]
    split <;> simp_all

/-- Readable entries that are written are read back as far as their primary symbols do not start
with a number sign. -/
theorem entries_render {entries : List Entry} (readable : ∀ entry ∈ entries, entry.Readable) :
    Dictionary.entries (render entries) =
      entries.filter fun entry => entry.primary.head? ≠ some '#' := by
  rw [Dictionary.entries, significantLines_render readable,
    ← sectionEntries_entryTexts readable]
  rfl

/-- Entries that are written are read back exactly if all of them are representable. -/
theorem entries_render_iff {entries : List Entry} :
    Dictionary.entries (render entries) = entries ↔ ∀ entry ∈ entries, entry.Representable := by
  constructor
  · intro same
    have readable (entry : Entry) (member : entry ∈ entries) : entry.Readable :=
      readable_of_mem_entries (same.symm ▸ member)
    rw [entries_render readable, List.filter_eq_self] at same
    exact fun entry member => ⟨readable entry member, by simpa using same entry member⟩
  · intro representable
    rw [entries_render fun entry member => (representable entry member).toReadable,
      List.filter_eq_self]
    exact fun entry member => by simpa using (representable entry member).primary_noComment

/-- What the format can hold: entries that are written are read back exactly if both symbols of each
are stripped, not empty and without line breaks, no colon stands in a localized symbol, no remark in
a primary one, and neither starts with a number sign. -/
theorem render_read_back_iff (entries : List Entry) :
    Dictionary.entries (render entries) = entries ↔
      ∀ entry ∈ entries,
        (entry.localized ≠ [] ∧ Text.strip entry.localized = entry.localized ∧
          (∀ c ∈ entry.localized, isLineBreak c = false) ∧
          ':' ∉ entry.localized ∧ entry.localized.head? ≠ some '#') ∧
        (entry.primary ≠ [] ∧ Text.strip entry.primary = entry.primary ∧
          (∀ c ∈ entry.primary, isLineBreak c = false) ∧
          entry.primary.head? ≠ some '#' ∧ ¬[' ', '#'] <:+: entry.primary) := by
  rw [entries_render_iff]
  refine forall₂_congr fun entry _ => ⟨fun representable => ?_, ?_⟩
  · have readable := representable.toReadable
    exact ⟨⟨readable.localized_ne_nil, readable.localized_strip, readable.localized_oneLine,
        readable.localized_noColon, readable.localized_noComment⟩,
      readable.primary_ne_nil, readable.primary_strip, readable.primary_oneLine,
      representable.primary_noComment, readable.primary_noRemark⟩
  · rintro ⟨⟨someLocalized, strippedLocalized, lineLocalized, noColon, noComment⟩, somePrimary,
      strippedPrimary, linePrimary, noSign, noRemark⟩
    exact ⟨⟨someLocalized, somePrimary, strippedLocalized, strippedPrimary, lineLocalized,
      linePrimary, noColon, noComment, noRemark⟩, noSign⟩

/-- A dictionary is read alike with line feeds for its line ends. -/
theorem entries_withNewlines (text : Text) :
    entries (Text.withNewlines text) = entries text := by
  rw [entries, significantLines, Text.lines_withNewlines, entries, significantLines]

end Dictionary

end Diglot
