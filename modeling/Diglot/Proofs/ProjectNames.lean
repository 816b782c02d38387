import Diglot.Proofs.LocalizedTrip

/-!
# Project names between localized and hybrid text

Between the localized and the hybrid mode only keywords change, so that a compiler should get by
without project names. Two lexicons give the same conversions exactly if they write every keyword
alike (`convert_eq_iff`). A project is refused if it names a keyword of the table, but there are
keywords outside the table, and a project that names one of those shows in the text of its compiler
(`project_names_unused_iff`).
-/

set_option autoImplicit false

namespace Diglot

open Markup (stripControls lexemeText)

/-! ## Keywords as words -/

/-- The keyword as a lexicon has it written in a mode. -/
def Lexicon.keywordText (lexicon : Lexicon) (mode : Mode) (word : Text) : Text :=
  lexemeText mode (Lexeme.reword lexicon mode.direction .keywordsOnly ⟨.keyword, word⟩)

theorem Lexicon.keywordText_eq (lexicon : Lexicon) (mode : Mode) (word : Text) :
    lexicon.keywordText mode word =
      lexemeText mode ⟨.keyword, (lexicon.counterpart? mode.direction word).getD word⟩ := rfl

/-- Two lexicons convert every text alike between modes where only keywords change, exactly if they
have every keyword written alike. -/
theorem convert_eq_iff {first second : Lexicon} {source target : Mode} (other : source ≠ target)
    (keywordsOnly : source.scopeTo target = .keywordsOnly) :
    (∀ text, convert first source target text = convert second source target text) ↔
      ∀ word, Keyword.isKeyword word = true →
        first.keywordText target word = second.keywordText target word := by
  have converts (lexicon : Lexicon) (text : Text) : convert lexicon source target text =
      (lexemes source.hasMarkup text).flatMap fun lexeme =>
        lexemeText target (lexeme.reword lexicon target.direction .keywordsOnly) := by
    rw [convert, if_neg other, keywordsOnly]
    exact List.flatMap_map _ _ _
  constructor
  · intro same word isKeyword
    have alike := same word
    simp only [converts, lexemes_word (Keyword.isWord_of_isKeyword isKeyword), wordKind, isKeyword,
      if_true, List.flatMap_singleton] at alike
    exact alike
  · intro alike text
    rw [converts, converts]
    refine List.flatMap_congr fun lexeme member => ?_
    have shaped : lexeme.Shaped source.hasMarkup := shaped_of_mem member
    cases affected : Scope.keywordsOnly.affects lexeme.kind with
    | false => rw [Lexeme.reword_eq_self (by simp [affected]),
        Lexeme.reword_eq_self (by simp [affected])]
    | true =>
      rcases lexeme with ⟨kind, word⟩
      obtain rfl : kind = .keyword := keyword_of_affects affected
      exact alike word (shaped.keyword rfl).2

/-! ## A project on top of the other tiers -/

namespace Lexicon

variable {library project : Glossary} {developer : Lexicon} {direction : Direction} {symbol : Text}

theorem ofTiers_of_noClash {σ : Type} [DecidableEq σ] {keywords library project : Glossary σ}
    (noClash : firstClash keywords library project = none) :
    ofTiers keywords library project = .ok ⟨keywords, library, project, noClash⟩ := by
  rw [ofTiers]
  split
  · next clashes => simp [noClash] at clashes
  · rfl

/-- An accepted project is the third tier. -/
theorem forDeveloper_eq_ok (accepted : forDeveloper library project = .ok developer) :
    developer.keywords = Keyword.glossary ∧ developer.library = library ∧
      developer.project = project := by
  rw [forDeveloper, ofTiers] at accepted
  split at accepted
  · simp at accepted
  · obtain rfl := Except.ok.inj accepted
    exact ⟨rfl, rfl, rfl⟩

/-- The project is asked for what the other tiers do not know. -/
theorem counterpart?_forDeveloper (accepted : forDeveloper library project = .ok developer)
    (direction : Direction) (symbol : Text) :
    developer.counterpart? direction symbol =
      ((forCompilation library).counterpart? direction symbol).or
        (project.counterpart? direction symbol) := by
  obtain ⟨keywords, rfl, rfl⟩ := forDeveloper_eq_ok accepted
  have unnamed : Glossary.empty.counterpart? direction symbol = none := by cases direction <;> rfl
  rw [counterpart?_eq, counterpart?_eq, keywords]
  simp only [forCompilation, ofLibrary, unnamed, Option.or_none, Option.or_assoc]

/-- A symbol of the project is unknown to the other tiers. -/
theorem counterpart?_forCompilation (accepted : forDeveloper library project = .ok developer)
    {entry : Entry} (member : entry ∈ project.entries) (side : Side) :
    (forCompilation library).counterpart? direction (entry.symbol side) = none := by
  obtain ⟨keywords, rfl, rfl⟩ := forDeveloper_eq_ok accepted
  have unknown := partner?_of_mem_project member side
  rw [keywords, Glossary.partner?_eq_none_iff, Glossary.partner?_eq_none_iff] at unknown
  obtain ⟨noKeyword, noLibrary⟩ := unknown
  rw [counterpart?_of_unnamed, forCompilation]
  · cases direction with
    | toPrimary => exact Glossary.primaryOf?_eq_none_iff.2 noKeyword.1
    | toLocalized => exact Glossary.localizedOf?_eq_none_iff.2 noKeyword.2
  · simpa [nameSymbols, forCompilation, ofLibrary, Glossary.empty,
      Glossary.localizedSymbols, Glossary.primarySymbols] using noLibrary

/-- A project is unused for a target mode exactly if the mode writes the counterpart of every
keyword that the project names as the keyword itself. -/
theorem keywordText_forDeveloper (accepted : forDeveloper library project = .ok developer)
    (target : Mode) :
    (∀ word, Keyword.isKeyword word = true →
        developer.keywordText target word = (forCompilation library).keywordText target word) ↔
      ∀ entry ∈ project.entries,
        Keyword.isKeyword (entry.symbol target.direction.origin) = true →
          lexemeText target ⟨.keyword, entry.symbol target.direction.opposite.origin⟩ =
            lexemeText target ⟨.keyword, entry.symbol target.direction.origin⟩ := by
  constructor
  · intro alike entry member isKeyword
    have same := alike _ isKeyword
    have found : project.counterpart? target.direction (entry.symbol target.direction.origin) =
        some (entry.symbol target.direction.opposite.origin) :=
      Glossary.counterpart?_eq_some_iff.2 ⟨entry, member, rfl, rfl⟩
    rw [keywordText_eq, keywordText_eq, counterpart?_forDeveloper accepted,
      counterpart?_forCompilation accepted member, found] at same
    exact same
  · intro alike word isKeyword
    rw [keywordText_eq, keywordText_eq, counterpart?_forDeveloper accepted]
    cases named : project.counterpart? target.direction word with
    | none => rw [Option.or_none]
    | some found =>
      obtain ⟨entry, member, rfl, rfl⟩ := Glossary.counterpart?_eq_some_iff.1 named
      rw [counterpart?_forCompilation accepted member]
      exact alike entry member isKeyword

end Lexicon

theorem text_eq_of_isolate_eq {first second : Char} {a b : Text}
    (same : Markup.isolate first a = Markup.isolate second b) : a = b := by
  rw [Markup.isolate, Markup.isolate] at same
  exact List.append_cancel_right (List.cons.inj same).2

theorem markedText_keyword_inj {a b : Text} :
    Markup.markedText ⟨.keyword, a⟩ = Markup.markedText ⟨.keyword, b⟩ ↔ a = b :=
  ⟨text_eq_of_isolate_eq, fun same => same ▸ rfl⟩

/-- Project names are unused between the localized and the hybrid mode exactly if no keyword that
the project names is changed by it. -/
theorem project_names_unused_iff (library project : Glossary) (developer : Lexicon)
    (accepted : Lexicon.forDeveloper library project = .ok developer) :
    ((∀ source, convert developer .localized .hybrid source =
          convert (.forCompilation library) .localized .hybrid source) ↔
        ∀ entry ∈ project.entries, Keyword.isKeyword entry.localized = true →
          stripControls entry.primary = entry.localized) ∧
      ((∀ source, convert developer .hybrid .localized source =
          convert (.forCompilation library) .hybrid .localized source) ↔
        ∀ entry ∈ project.entries, Keyword.isKeyword entry.primary = true →
          entry.localized = entry.primary) := by
  constructor
  · rw [convert_eq_iff (by decide) rfl, Lexicon.keywordText_forDeveloper accepted]
    refine forall₂_congr fun entry _ => forall_congr' fun isKeyword => ?_
    have plain : Uncontrolled entry.localized :=
      isControl_eq_false_of_mem_word (Keyword.isWord_of_isKeyword isKeyword)
    have stripped := plain.stripControls
    change stripControls entry.primary = stripControls entry.localized ↔ _
    rw [stripped]
  · rw [convert_eq_iff (by decide) rfl, Lexicon.keywordText_forDeveloper accepted]
    exact forall₂_congr fun entry _ => forall_congr' fun _ => markedText_keyword_inj

theorem project_names_unused_small :
    Lexicon.forDeveloper smallLexicon.library smallLexicon.project = .ok smallLexicon ∧
      (∀ source, convert smallLexicon .localized .hybrid source =
        convert (.forCompilation smallLexicon.library) .localized .hybrid source) ∧
      ∀ source, convert smallLexicon .hybrid .localized source =
        convert (.forCompilation smallLexicon.library) .hybrid .localized source := by
  have accepted : Lexicon.forDeveloper smallLexicon.library smallLexicon.project =
      .ok smallLexicon := Lexicon.ofTiers_of_noClash smallLexicon.noClash
  have unused := project_names_unused_iff _ _ _ accepted
  exact ⟨accepted, unused.1.2 (by decide +kernel), unused.2.2 (by decide +kernel)⟩

/-- The keywords with a project that names a keyword outside the table. -/
def outletLexicon : Lexicon where
  keywords := Keyword.glossary
  library := .empty
  project := ⟨[⟨['ש', 'פ', 'א', 'ל', 'ט'], "IBOutlet".toList⟩], by decide, by decide⟩
  noClash := by decide +kernel

/-- The project's name for the keyword gets into localized text. -/
theorem project_names_used_outlet :
    Lexicon.forDeveloper .empty outletLexicon.project = .ok outletLexicon ∧
      convert outletLexicon .hybrid .localized "IBOutlet".toList =
        Markup.isolate Markup.rightIsolate ['ש', 'פ', 'א', 'ל', 'ט'] ∧
      convert (.forCompilation .empty) .hybrid .localized "IBOutlet".toList =
        Markup.isolate Markup.leftIsolate "IBOutlet".toList ∧
      convert outletLexicon .hybrid .localized "IBOutlet".toList ≠
        convert (.forCompilation .empty) .hybrid .localized "IBOutlet".toList :=
  ⟨Lexicon.ofTiers_of_noClash outletLexicon.noClash, by decide +kernel⟩

end Diglot
