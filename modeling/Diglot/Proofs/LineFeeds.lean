import Diglot.Proofs.DictionaryEntries
import Diglot.Proofs.LineDifferences
import Diglot.Proofs.LocalizedTrip

/-!
# Line feeds through a round trip

The report of a round trip compares lines and counts a missing line as empty, so that by itself it
cannot see a line feed that is added or lost at the end. None is: a scan puts no line feed into a
name, so rewording with symbols that stand on one line keeps every line feed, and so does writing
in a mode (`count_convert`). Texts with as many line feeds cannot differ at their ends alone, so the
report says exactly whether the text came back (`round_trip_verdict`).
-/

set_option autoImplicit false

namespace Diglot

open Markup (stripControls)

variable {lexicon : Lexicon} {lexeme : Lexeme} {text : Text}

/-! ## Symbols on one line -/

structure Entry.OneLine (entry : Entry) : Prop where
  localized : '\n' ∉ entry.localized
  primary : '\n' ∉ entry.primary

instance (entry : Entry) : Decidable entry.OneLine :=
  decidable_of_iff ('\n' ∉ entry.localized ∧ '\n' ∉ entry.primary)
    ⟨fun ⟨localized, primary⟩ => ⟨localized, primary⟩,
      fun ⟨localized, primary⟩ => ⟨localized, primary⟩⟩

def Lexicon.OneLine (lexicon : Lexicon) : Prop :=
  ∀ tier ∈ lexicon.tiers, ∀ entry ∈ tier.2.entries, entry.OneLine

instance (lexicon : Lexicon) : Decidable lexicon.OneLine :=
  inferInstanceAs (Decidable (∀ tier ∈ lexicon.tiers, ∀ entry ∈ tier.2.entries, entry.OneLine))

theorem Lexicon.OneLine.feed_not_mem (oneLine : lexicon.OneLine) {direction : Direction}
    {symbol found : Text} (counterpart : lexicon.counterpart? direction symbol = some found) :
    '\n' ∉ found := by
  obtain ⟨tier, inTiers, known⟩ := List.exists_of_findSome?_eq_some counterpart
  have entries := oneLine tier inTiers
  cases direction with
  | toPrimary => exact (entries _ (Glossary.primaryOf?_eq_some_iff.1 known)).primary
  | toLocalized => exact (entries _ (Glossary.localizedOf?_eq_some_iff.1 known)).localized

theorem feed_not_mem_of_unbroken (unbroken : ∀ c ∈ text, Text.isLineBreak c = false) :
    '\n' ∉ text :=
  fun feed => absurd (unbroken '\n' feed) (by decide)

/-- The entries of a project dictionary stand on one line. -/
theorem Dictionary.oneLine_of_mem_entries {entry : Entry} (member : entry ∈ entries text) :
    entry.OneLine := by
  have readable := readable_of_mem_entries member
  exact ⟨feed_not_mem_of_unbroken readable.localized_oneLine,
    feed_not_mem_of_unbroken readable.primary_oneLine⟩

namespace Library

theorem body?_isInfix {entry : Entry} (read : body? text = some entry) :
    entry.localized <:+: text ∧ entry.primary <:+: text := by
  obtain ⟨front, back, cut, rfl, -⟩ := body?_eq_some read
  rw [Text.cutAt_eq_some cut]
  constructor
  · rw [List.append_assoc]
    exact (Text.strip_isInfix front).trans (List.prefix_append _ _).isInfix
  · exact (Text.strip_isInfix back).trans (List.suffix_append _ _).isInfix

theorem after?_isSuffix {start rest : Text} (found : Text.after? start text = some rest) :
    rest <:+ text := by
  rw [Text.after?] at found
  split at found
  · exact Option.some.inj found ▸ List.drop_suffix _ _
  · simp at found

theorem withoutModifier_isSuffix (text : Text) : withoutModifier text <:+ text := by
  rw [withoutModifier]
  cases found : accessModifiers.findSome? fun modifier => Text.after? modifier text with
  | none => exact List.suffix_rfl
  | some rest =>
    obtain ⟨modifier, -, after⟩ := List.exists_of_findSome?_eq_some found
    exact after?_isSuffix after

theorem entryOfLine?_isInfix {line : Text} {entry : Entry}
    (read : entryOfLine? line = some entry) :
    entry.localized <:+: line ∧ entry.primary <:+: line := by
  have stripped := Text.strip_isInfix line
  rw [entryOfLine?] at read
  split at read
  · next mapping found =>
    obtain ⟨localized, primary⟩ := body?_isInfix read
    have inLine :=
      (Text.strip_isInfix mapping).trans ((after?_isSuffix found).isInfix.trans stripped)
    exact ⟨localized.trans inLine, primary.trans inLine⟩
  · split at read
    · next rest found =>
      obtain ⟨localized, primary⟩ := body?_isInfix read
      have inLine := (after?_isSuffix found).isInfix.trans
        ((withoutModifier_isSuffix _).isInfix.trans stripped)
      exact ⟨localized.trans inLine, primary.trans inLine⟩
    · simp at read

/-- The entries that declarations make stand on one line. -/
theorem oneLine_of_mem_declared {entry : Entry} (member : entry ∈ declared text) :
    entry.OneLine := by
  obtain ⟨line, inLines, read⟩ := List.mem_filterMap.1 member
  obtain ⟨localized, primary⟩ := entryOfLine?_isInfix read
  have noFeed := feed_not_mem_of_unbroken (Text.isLineBreak_of_mem_lines inLines)
  exact ⟨fun feed => noFeed (localized.mem feed), fun feed => noFeed (primary.mem feed)⟩

end Library

/-! ## Names on one line -/

theorem feed_not_mem_word {word : Text} (isWord : isWord word = true) : '\n' ∉ word := by
  cases word with
  | nil => simp
  | cons c cs =>
    obtain ⟨starts, goOn⟩ := isWord_cons.1 isWord
    rw [List.mem_cons, not_or]
    refine ⟨?_, fun feed => absurd (goOn '\n' feed) (by decide)⟩
    rintro rfl
    exact absurd starts (by decide)

theorem feed_not_mem_escapedNameTail (cs : Text) : '\n' ∉ (escapedNameTail cs).taken := by
  induction cs with
  | nil => simp [escapedNameTail, Cut.nothing]
  | cons c cs ih =>
    rw [escapedNameTail]
    split
    · simp [Cut.nothing]
    · next inside =>
      have other : '\n' ≠ c := by
        rintro rfl
        exact inside (by decide)
      split <;> simp [Cut.after, other, ih]

/-- A step takes no name across a line feed. -/
theorem feed_not_mem_step {localized : Bool} {context : Context} {c : Char} {cs : Text}
    (name : Scope.full.affects (step localized context c cs).kind = true) :
    '\n' ∉ (step localized context c cs).cut.taken := by
  have begins := Form.begins c cs
  obtain ⟨depths, rfl, -, word | escaped⟩ := step_of_name name
  · rw [word] at begins
    simpa only [step, codeStep, word] using feed_not_mem_word (isWord_wordCut begins cs)
  · rw [escaped] at begins
    obtain rfl : c = backtick := begins
    simp only [step, codeStep, escaped, Cut.after, List.singleton_append, List.mem_cons, not_or]
    exact ⟨by decide, feed_not_mem_escapedNameTail cs⟩

/-- No name of a scan holds a line feed. -/
theorem feed_not_mem_name {localized : Bool} {context : Context} {input : Text}
    (member : lexeme ∈ lexemesFrom localized context input)
    (name : Scope.full.affects lexeme.kind = true) : '\n' ∉ lexeme.text := by
  fun_induction lexemesFrom localized context input with
  | case1 => simp at member
  | case2 context c cs next ih =>
    rcases List.mem_cons.1 member with rfl | member
    · exact feed_not_mem_step name
    · exact ih member

/-! ## Line feeds through a conversion -/

theorem count_reword (oneLine : lexicon.OneLine) (direction : Direction) (scope : Scope)
    (name : Scope.full.affects lexeme.kind = true → '\n' ∉ lexeme.text) :
    (lexeme.reword lexicon direction scope).text.count '\n' = lexeme.text.count '\n' := by
  rw [Lexeme.reword]
  split
  · next affected =>
    have full : Scope.full.affects lexeme.kind = true := by
      cases scope with
      | full => exact affected
      | keywordsOnly => simp [keyword_of_affects affected, Scope.affects]
    cases found : lexicon.counterpart? direction lexeme.text with
    | none => rfl
    | some symbol =>
      rw [List.count_eq_zero_of_not_mem (name full)]
      exact List.count_eq_zero_of_not_mem (oneLine.feed_not_mem found)
  · rfl

theorem count_stripControls (text : Text) :
    (stripControls text).count '\n' = text.count '\n' :=
  List.count_filter (by decide)

theorem count_map {change : Char → Char} (keeps : ∀ c, change c = '\n' ↔ c = '\n') (text : Text) :
    (text.map change).count '\n' = text.count '\n' := by
  rw [List.count_eq_countP, List.countP_map, List.count_eq_countP]
  refine List.countP_congr fun c _ => ?_
  simpa using keeps c

theorem count_isolate {opener : Char} (other : opener ≠ '\n') (text : Text) :
    (Markup.isolate opener text).count '\n' = text.count '\n' := by
  simp [Markup.isolate, Markup.popIsolate, other]

theorem count_localizedDelimiter (text : Text) :
    (Markup.localizedDelimiter text).count '\n' = text.count '\n' := by
  rw [Markup.localizedDelimiter.eq_def]
  split <;> simp

theorem count_plainDelimiter (text : Text) :
    (Markup.plainDelimiter text).count '\n' = text.count '\n' := by
  rw [Markup.plainDelimiter.eq_def]
  split <;> simp

theorem count_markedText (lexeme : Lexeme) :
    (Markup.markedText lexeme).count '\n' = lexeme.text.count '\n' := by
  rcases lexeme with ⟨kind, text⟩
  cases kind with
  | keyword | identifier =>
    refine count_isolate ?_ text
    split <;> decide
  | stringLiteral => exact count_isolate (by decide) text
  | operator =>
    refine (count_isolate (by decide) _).trans (count_map (fun c => ?_) text)
    rw [Markup.swapSlash]
    split_ifs <;> simp_all
  | delimiter =>
    exact (count_isolate (by decide) _).trans (count_localizedDelimiter text)
  | punctuation =>
    simp only [Markup.markedText]
    split <;> simp [Markup.leftMark]
  | whitespace | comment | numberLiteral | unknown => rfl

theorem count_plainText (lexeme : Lexeme) :
    (Markup.plainText lexeme).count '\n' = lexeme.text.count '\n' := by
  rw [← count_stripControls lexeme.text, Markup.plainText]
  rcases lexeme with ⟨kind, text⟩
  cases kind with
  | operator =>
    refine count_map (fun c => ?_) _
    rw [Markup.forwardSlash]
    split_ifs <;> simp_all
  | delimiter => exact count_plainDelimiter _
  | keyword | identifier | stringLiteral | comment | whitespace | punctuation | numberLiteral
  | unknown => rfl

/-- Every mode writes the line feeds of a lexeme and no others. -/
theorem count_lexemeText (mode : Mode) (lexeme : Lexeme) :
    (Markup.lexemeText mode lexeme).count '\n' = lexeme.text.count '\n' := by
  cases mode with
  | localized => exact count_markedText lexeme
  | primary | hybrid => exact count_plainText lexeme

/-- A conversion keeps the number of line feeds. -/
theorem count_convert (oneLine : lexicon.OneLine) (source target : Mode) (text : Text) :
    (convert lexicon source target text).count '\n' = text.count '\n' := by
  rw [convert]
  split
  · rfl
  · have pieces : (Lexeme.concat (lexemes source.hasMarkup text)).count '\n' = text.count '\n' := by
      rw [concat_lexemes]
    rw [← pieces, Markup.render, List.flatMap_map, Lexeme.concat, List.count_flatMap,
      List.count_flatMap]
    refine congrArg List.sum (List.map_congr_left fun lexeme member => ?_)
    simp only [Function.comp_apply, count_lexemeText]
    exact count_reword oneLine _ _ (feed_not_mem_name member)

/-! ## Lines side by side -/

/-- Texts with as many line feeds differ in no line exactly if they are equal. -/
theorem diffLines_eq_nil_iff {expected actual : Text}
    (feeds : expected.count '\n' = actual.count '\n') :
    diffLines expected actual = [] ↔ expected = actual := by
  rw [diffLines_eq_nil_iff_getD, Text.getD_splitOn_eq_iff]
  refine ⟨fun same => ?_, congrArg Text.withoutEndFeeds⟩
  obtain ⟨wanted, expectedWhole⟩ := Text.exists_endFeeds expected
  obtain ⟨found, actualWhole⟩ := Text.exists_endFeeds actual
  have asMany : wanted = found := by
    rw [congrArg (List.count '\n') expectedWhole, congrArg (List.count '\n') actualWhole, same,
      List.count_append, List.count_append, List.count_replicate_self,
      List.count_replicate_self] at feeds
    exact Nat.add_left_cancel feeds
  rw [expectedWhole, actualWhole, same, asMany]

/-! ## The verdict -/

/-- The entries of dictionaries and of declarations stand on one line. With symbols that do, a round
trip succeeds exactly if the text came back, directional controls apart where one of the modes has
them, and both its texts have as many line feeds as the first. -/
theorem round_trip_verdict :
    (∀ dictionary, ∀ entry ∈ Dictionary.entries dictionary, entry.OneLine) ∧
    (∀ declarations, ∀ entry ∈ Library.declared declarations, entry.OneLine) ∧
    ∀ (lexicon : Lexicon) (source via : Mode) (text : Text), lexicon.OneLine →
      let trip := RoundTrip.run lexicon source via text
      (trip.succeeded = true ↔
        if source = .localized ∨ via = .localized then
          stripControls trip.returned = stripControls text
        else trip.returned = text) ∧
      trip.intermediate.count '\n' = text.count '\n' ∧
      trip.returned.count '\n' = text.count '\n' := by
  refine ⟨fun _ _ => Dictionary.oneLine_of_mem_entries,
    fun _ _ => Library.oneLine_of_mem_declared, fun lexicon source via text oneLine => ?_⟩
  intro trip
  have there : trip.intermediate.count '\n' = text.count '\n' :=
    count_convert oneLine source via text
  have back : trip.returned.count '\n' = text.count '\n' :=
    (count_convert oneLine via source trip.intermediate).trans there
  refine ⟨?_, there, back⟩
  have marked : trip.ignoresMarkup = true ↔ source = .localized ∨ via = .localized := by
    simp [trip, RoundTrip.run, RoundTrip.ignoresMarkup, Mode.hasMarkup]
  have texts : trip.text = text := rfl
  rw [RoundTrip.succeeded, List.isEmpty_iff, RoundTrip.mismatches, RoundTrip.compared,
    RoundTrip.compared, texts]
  by_cases markup : source = .localized ∨ via = .localized
  · have ignored := marked.2 markup
    rw [if_pos markup, if_pos ignored, if_pos ignored,
      diffLines_eq_nil_iff (by rw [count_stripControls, count_stripControls, back])]
    exact eq_comm
  · have counted := mt marked.1 markup
    rw [if_neg markup, if_neg counted, if_neg counted, diffLines_eq_nil_iff back.symm]
    exact eq_comm

theorem round_trip_verdict_nested :
    smallLexicon.OneLine ∧
      (RoundTrip.run smallLexicon .primary .localized nestedText).succeeded = true ∧
      (RoundTrip.run smallLexicon .localized .hybrid nestedText).succeeded = false ∧
      (RoundTrip.run smallLexicon .localized .hybrid nestedText).returned.count '\n' = 2 := by
  have oneLine : smallLexicon.OneLine := by decide +kernel
  have there := round_trip_verdict.2.2 smallLexicon .primary .localized nestedText oneLine
  have back := round_trip_verdict.2.2 smallLexicon .localized .hybrid nestedText oneLine
  exact ⟨oneLine, there.1.2 (by decide +kernel),
    Bool.eq_false_iff.2 fun succeeded => absurd (back.1.1 succeeded) (by decide +kernel),
    back.2.2.trans (by decide +kernel)⟩

end Diglot
