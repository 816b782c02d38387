import Diglot.Proofs.ForeignWords
import Diglot.Proofs.LocalizedTrip

/-!
# Through hybrid text

A text of the primary mode is localized and then made hybrid. From the hybrid text both are
regained: the localized text with its markup, and the primary text (`hybrid_passage`).

Each lexeme of the source has one of four fates on the way (`Fate`): it is no name, it has no
counterpart, it is a keyword of the table, or a foreign word stands for it. What a hybrid text needs
of a lexeme, `Passes`, is proved fate by fate.
-/

set_option autoImplicit false

namespace Diglot

open Markup (plainText markedText)

variable {lexicon : Lexicon} {lexeme : Lexeme} {source word : Text}

/-- The built-in keywords, with names whose localized symbols are foreign words and whose primary
symbols are words without dollar sign; no localized symbol of the library is a keyword. -/
structure Lexicon.Hybrid (lexicon : Lexicon) : Prop where
  builtIn : lexicon.keywords = Keyword.glossary
  localizedWord : ∀ symbol ∈ lexicon.library.localizedSymbols ++ lexicon.project.localizedSymbols,
    isWord symbol = true ∧ startsForeign symbol = true
  primaryWord : ∀ symbol ∈ lexicon.library.primarySymbols ++ lexicon.project.primarySymbols,
    isWord symbol = true ∧ symbol.head? ≠ some '$'
  apart : ∀ symbol ∈ lexicon.library.localizedSymbols, symbol ∉ Keyword.localizedWords

/-! ## The lexicon -/

theorem Keyword.startsForeign_primary :
    ∀ word ∈ primaryWords ++ entries.map Entry.primary, startsForeign word = false := by
  decide +kernel

/-- A foreign word is a keyword only if the table has it as localized keyword. -/
theorem Keyword.isKeyword_eq_false (foreign : startsForeign word = true)
    (other : word ∉ localizedWords) : isKeyword word = false := by
  rw [Bool.eq_false_iff, isKeyword, ne_eq, List.contains_iff_mem, allWords]
  intro member
  have primary : word ∈ primaryWords ++ entries.map Entry.primary := by
    simp only [List.mem_append] at member ⊢
    tauto
  simp [startsForeign_primary word primary] at foreign

/-- What becomes of a name of the source on its way. -/
inductive Lexicon.Fate (lexicon : Lexicon) (lexeme : Lexeme) : Prop
  | kept : lexicon.counterpart? .toLocalized lexeme.text = none → Fate lexicon lexeme
  | keyword (word : Text) : lexeme.kind = .keyword →
      lexicon.counterpart? .toLocalized lexeme.text = some word → isWord word = true →
      Keyword.isKeyword word = true → Fate lexicon lexeme
  | foreign (word : Text) : lexicon.counterpart? .toLocalized lexeme.text = some word →
      isWord word = true → startsForeign word = true → Keyword.isKeyword word = false →
      isWord lexeme.text = true → lexeme.text.head? ≠ some '$' → Fate lexicon lexeme

theorem Lexicon.Hybrid.fate (hybrid : lexicon.Hybrid) (shaped : lexeme.Shaped false)
    (name : Scope.full.affects lexeme.kind = true) : lexicon.Fate lexeme := by
  cases found : lexicon.counterpart? .toLocalized lexeme.text with
  | none => exact .kept found
  | some word =>
    have foreign (glossary : Glossary)
        (localized : glossary.localizedOf? lexeme.text = some word)
        (localizedWord : ∀ symbol ∈ glossary.localizedSymbols,
          isWord symbol = true ∧ startsForeign symbol = true)
        (primaryWord : ∀ symbol ∈ glossary.primarySymbols,
          isWord symbol = true ∧ symbol.head? ≠ some '$')
        (apart : word ∉ Keyword.localizedWords) : lexicon.Fate lexeme := by
      obtain ⟨isWord, starts⟩ := localizedWord word (Glossary.mem_localizedSymbols localized)
      obtain ⟨primary, noDollar⟩ := primaryWord lexeme.text (Glossary.mem_primarySymbols localized)
      exact .foreign word found isWord starts (Keyword.isKeyword_eq_false starts apart) primary
        noDollar
    rcases Lexicon.counterpart?_eq_some_iff.1 found with keyword | ⟨-, library | ⟨-, project⟩⟩
    · rw [hybrid.builtIn] at keyword
      have keyword : Keyword.glossary.localizedOf? lexeme.text = some word := keyword
      have isKeyword := Keyword.isKeyword_of_primary (Glossary.mem_primarySymbols keyword)
      have kind := keyword_of_isKeyword shaped name isKeyword
      exact .keyword word kind found (Keyword.isWord_of_localizedOf? keyword)
        (Keyword.isKeyword_of_localized (Glossary.mem_localizedSymbols keyword))
    · exact foreign lexicon.library library
        (fun symbol member => hybrid.localizedWord symbol (List.mem_append_left _ member))
        (fun symbol member => hybrid.primaryWord symbol (List.mem_append_left _ member))
        (hybrid.apart word (Glossary.mem_localizedSymbols library))
    · have member := Glossary.localizedOf?_eq_some_iff.1 project
      have unknown := (Lexicon.partner?_of_mem_project member .localized).1
      rw [Glossary.partner?_eq_none_iff, hybrid.builtIn] at unknown
      exact foreign lexicon.project project
        (fun symbol member => hybrid.localizedWord symbol (List.mem_append_right _ member))
        (fun symbol member => hybrid.primaryWord symbol (List.mem_append_right _ member))
        unknown.1

/-! ## One lexeme -/

/-- The lexeme as hybrid text has it: a word in place of a name is there unless it is a keyword. -/
def Lexeme.hybridized (lexicon : Lexicon) (lexeme : Lexeme) : Lexeme :=
  match lexicon.counterpart? .toLocalized lexeme.text with
  | some word =>
    if Scope.full.affects lexeme.kind && !Keyword.isKeyword word then ⟨.identifier, word⟩
    else lexeme
  | none => lexeme

theorem hybridized_of_noName (noName : Scope.full.affects lexeme.kind = false) :
    lexeme.hybridized lexicon = lexeme := by
  unfold Lexeme.hybridized
  split <;> simp [noName]

theorem hybridized_of_kept (kept : lexicon.counterpart? .toLocalized lexeme.text = none) :
    lexeme.hybridized lexicon = lexeme := by
  simp [Lexeme.hybridized, kept]

theorem hybridized_of_keyword (found : lexicon.counterpart? .toLocalized lexeme.text = some word)
    (isKeyword : Keyword.isKeyword word = true) : lexeme.hybridized lexicon = lexeme := by
  simp [Lexeme.hybridized, found, isKeyword]

theorem hybridized_of_foreign (name : Scope.full.affects lexeme.kind = true)
    (found : lexicon.counterpart? .toLocalized lexeme.text = some word)
    (noKeyword : Keyword.isKeyword word = false) :
    lexeme.hybridized lexicon = ⟨.identifier, word⟩ := by
  simp [Lexeme.hybridized, found, name, noKeyword]

/-- What the hybrid form of a lexeme has to be: localized text is written from it as from the
lexeme, and the primary text is read from it. -/
structure Lexeme.Passes (lexicon : Lexicon) (lexeme hybrid : Lexeme) : Prop where
  rephrases : Rephrases lexeme (lexeme.reword lexicon .toLocalized .full)
  written : (lexeme.reword lexicon .toLocalized .full).respelled.flatMap
    (Lexeme.reading lexicon .keywordsOnly) = hybrid.text
  replaces : Replaces lexeme hybrid
  localized : markedText (hybrid.reword lexicon .toLocalized .keywordsOnly) =
    markedText (lexeme.reword lexicon .toLocalized .full)
  primary : hybrid.reading lexicon .full = lexeme.text

theorem passes_of_noName (shaped : lexeme.Shaped false) (plain : Uncontrolled lexeme.text)
    (noBackslash : lexeme ≠ ⟨.operator, ['\\']⟩)
    (noName : Scope.full.affects lexeme.kind = false) : lexeme.Passes lexicon lexeme := by
  have keywordsOnly : Scope.keywordsOnly.affects lexeme.kind = false := by
    cases kind : lexeme.kind <;> simp_all [Scope.affects]
  have same (direction : Direction) : lexeme.reword lexicon direction .full = lexeme :=
    Lexeme.reword_eq_self (by simp [noName])
  exact {
    rephrases := .inl (same .toLocalized)
    written := by
      rw [same]
      exact flatMap_reading_respelled shaped plain noBackslash noName
    replaces := .inl rfl
    localized := by rw [same, Lexeme.reword_eq_self (by simp [keywordsOnly])]
    primary := by
      rw [Lexeme.reading, same]
      exact plainText_of_noName shaped plain noBackslash noName }

theorem passes_of_kept (shaped : lexeme.Shaped false) (plain : Uncontrolled lexeme.text)
    (name : Scope.full.affects lexeme.kind = true)
    (unknown : lexicon.counterpart? .toPrimary lexeme.text = none)
    (kept : lexicon.counterpart? .toLocalized lexeme.text = none) :
    lexeme.Passes lexicon lexeme := by
  have same (scope : Scope) : lexeme.reword lexicon .toLocalized scope = lexeme :=
    Lexeme.reword_eq_self fun _ => kept
  exact {
    rephrases := .inl (same .full)
    written := by
      rw [same]
      exact flatMap_reading_of_unknown shaped name plain fun _ => unknown
    replaces := .inl rfl
    localized := by rw [same, same]
    primary := by
      rw [Lexeme.reading, Lexeme.reword_eq_self fun _ => unknown]
      exact plainText_of_name name plain }

theorem passes_of_keyword (plain : Uncontrolled lexeme.text)
    (unknown : lexicon.counterpart? .toPrimary lexeme.text = none)
    (kind : lexeme.kind = .keyword)
    (found : lexicon.counterpart? .toLocalized lexeme.text = some word)
    (back : lexicon.counterpart? .toPrimary word = some lexeme.text)
    (isWord : isWord word = true) (isKeyword : Keyword.isKeyword word = true) :
    lexeme.Passes lexicon lexeme := by
  have name : Scope.full.affects lexeme.kind = true := by rw [kind]; rfl
  have reworded (scope : Scope) :
      lexeme.reword lexicon .toLocalized scope = ⟨lexeme.kind, word⟩ := by
    cases scope <;> simp [Lexeme.reword, Scope.affects, kind, found]
  have affected : Scope.keywordsOnly.affects (wordKind word) = true := by
    rw [wordKind, if_pos isKeyword]
    rfl
  exact {
    rephrases := by
      rw [reworded]
      exact .inr ⟨name, rfl, isWord⟩
    written := by
      rw [reworded]
      exact flatMap_reading_of_known name isWord affected back plain
    replaces := .inl rfl
    localized := by rw [reworded, reworded]
    primary := by
      rw [Lexeme.reading, Lexeme.reword_eq_self fun _ => unknown]
      exact plainText_of_name name plain }

theorem passes_of_foreign (plain : Uncontrolled lexeme.text)
    (name : Scope.full.affects lexeme.kind = true)
    (found : lexicon.counterpart? .toLocalized lexeme.text = some word)
    (back : lexicon.counterpart? .toPrimary word = some lexeme.text)
    (isWord : isWord word = true) (foreign : startsForeign word = true)
    (noKeyword : Keyword.isKeyword word = false) (primary : Diglot.isWord lexeme.text = true)
    (noDollar : lexeme.text.head? ≠ some '$') :
    lexeme.Passes lexicon ⟨.identifier, word⟩ := by
  have reworded : lexeme.reword lexicon .toLocalized .full = ⟨lexeme.kind, word⟩ := by
    simp [Lexeme.reword, name, found]
  have kind : wordKind word = .identifier := by
    rw [wordKind, if_neg (by simp [noKeyword])]
  have same (direction : Direction) :
      Lexeme.reword lexicon direction .keywordsOnly ⟨.identifier, word⟩ = ⟨.identifier, word⟩ :=
    Lexeme.reword_eq_self (by simp [Scope.affects])
  have spelled : Lexeme.respelled ⟨lexeme.kind, word⟩ = [⟨.identifier, word⟩] := by
    rw [← kind]
    exact respelled_of_word name isWord
  exact {
    rephrases := by
      rw [reworded]
      exact .inr ⟨name, rfl, isWord⟩
    written := by
      rw [reworded, spelled, List.flatMap_singleton, Lexeme.reading, same]
      exact plainText_of_name rfl (isControl_eq_false_of_mem_word isWord)
    replaces := .inr ⟨name, primary, noDollar, isWord, foreign, kind.symm⟩
    localized := by
      rw [reworded, same]
      rcases affects_full_iff.1 name with keyword | identifier
      · rw [keyword]
        rfl
      · rw [identifier]
    primary := by
      have backed : Lexeme.reword lexicon .toPrimary .full ⟨.identifier, word⟩ =
          ⟨.identifier, lexeme.text⟩ := by
        simp [Lexeme.reword, Scope.affects, back]
      rw [Lexeme.reading, backed]
      exact plainText_of_name rfl plain }

/-- Every lexeme of a source passes through its hybrid form. -/
theorem Lexicon.Hybrid.passes (hybrid : lexicon.Hybrid) (carriable : Carriable source)
    (primary : ∀ lexeme ∈ lexemes false source, Scope.full.affects lexeme.kind = true →
      lexeme.text ∉ lexicon.localizedSymbols) :
    ∀ lexeme ∈ lexemes false source, lexeme.Passes lexicon (lexeme.hybridized lexicon) := by
  intro lexeme member
  have shaped : lexeme.Shaped false := shaped_of_mem member
  have plain := carriable.lexeme_uncontrolled member
  have apart : ∀ symbol ∈ lexicon.library.localizedSymbols,
      symbol ∉ lexicon.keywords.localizedSymbols := by
    rw [hybrid.builtIn]
    exact hybrid.apart
  cases name : Scope.full.affects lexeme.kind with
  | false =>
    rw [hybridized_of_noName name]
    exact passes_of_noName shaped plain (carriable.lexeme_ne member) name
  | true =>
    have unknown := Lexicon.toPrimary_eq_none_iff.2 (primary lexeme member name)
    cases hybrid.fate shaped name with
    | kept kept =>
      rw [hybridized_of_kept kept]
      exact passes_of_kept shaped plain name unknown kept
    | keyword word kind found isWord isKeyword =>
      rw [hybridized_of_keyword found isKeyword]
      exact passes_of_keyword plain unknown kind found
        (Lexicon.toPrimary_of_toLocalized apart found) isWord isKeyword
    | foreign word found isWord foreign noKeyword primaryWord noDollar =>
      rw [hybridized_of_foreign name found noKeyword]
      exact passes_of_foreign plain name found (Lexicon.toPrimary_of_toLocalized apart found)
        isWord foreign noKeyword primaryWord noDollar

/-! ## A whole text -/

/-- Hybrid text is the concatenation of the hybrid lexemes. -/
theorem convert_hybrid_eq (carriable : Carriable source)
    (passes : ∀ lexeme ∈ lexemes false source,
      lexeme.Passes lexicon (lexeme.hybridized lexicon)) :
    convert lexicon .localized .hybrid (convert lexicon .primary .localized source) =
      Lexeme.concat ((lexemes false source).map (Lexeme.hybridized lexicon)) := by
  rw [convert_toLocalized (by decide)]
  calc convert lexicon .localized .hybrid (Markup.render .localized
        ((lexemes false source).map (Lexeme.reword lexicon .toLocalized .full)))
      = (lexemes false source).flatMap fun lexeme =>
          (lexeme.reword lexicon .toLocalized .full).respelled.flatMap
            (Lexeme.reading lexicon .keywordsOnly) :=
        convert_render carriable (by decide) (escapedUnknown_keywordsOnly lexicon)
          fun lexeme member => (passes lexeme member).rephrases
    _ = (lexemes false source).flatMap fun lexeme => (lexeme.hybridized lexicon).text :=
        List.flatMap_congr fun lexeme member => (passes lexeme member).written
    _ = Lexeme.concat ((lexemes false source).map (Lexeme.hybridized lexicon)) :=
        (List.flatMap_map _ _ _).symm

/-- The scanner finds the hybrid lexemes in it. -/
theorem lexemes_hybridized
    (passes : ∀ lexeme ∈ lexemes false source,
      lexeme.Passes lexicon (lexeme.hybridized lexicon)) :
    lexemes false (Lexeme.concat ((lexemes false source).map (Lexeme.hybridized lexicon))) =
      (lexemes false source).map (Lexeme.hybridized lexicon) := by
  have replaced : List.Forall₂ Replaces (lexemesFrom false .top source)
      ((lexemes false source).map (Lexeme.hybridized lexicon)) := by
    rw [List.forall₂_map_right_iff, ← lexemes, List.forall₂_same]
    exact fun lexeme member => (passes lexeme member).replaces
  exact lexemesFrom_concat replaced

/-- Hybrid text loses nothing: it gives the localized text that it came from, markup included, and
the primary text that this came from. -/
theorem hybrid_passage (lexicon : Lexicon) (source : Text) (hybrid : lexicon.Hybrid)
    (carriable : Carriable source)
    (primary : ∀ token ∈ scan false source,
      token.lexeme.kind = .keyword ∨ token.lexeme.kind = .identifier →
        token.lexeme.text ∉ lexicon.localizedSymbols) :
    let localizedText := convert lexicon .primary .localized source
    let hybridText := convert lexicon .localized .hybrid localizedText
    convert lexicon .hybrid .localized hybridText = localizedText ∧
      convert lexicon .hybrid .primary hybridText = source := by
  have primaryLexeme : ∀ lexeme ∈ lexemes false source, Scope.full.affects lexeme.kind = true →
      lexeme.text ∉ lexicon.localizedSymbols := by
    intro lexeme member name
    rw [← map_lexeme_scan] at member
    obtain ⟨token, scanned, rfl⟩ := List.mem_map.1 member
    exact primary token scanned (affects_full_iff.1 name)
  have passes := hybrid.passes carriable primaryLexeme
  dsimp only
  rw [convert_hybrid_eq carriable passes]
  constructor
  · rw [convert_toLocalized (by decide), convert_toLocalized (by decide),
      lexemes_hybridized passes, Markup.render, Markup.render, List.flatMap_map, List.flatMap_map,
      List.flatMap_map]
    exact List.flatMap_congr fun lexeme member => (passes lexeme member).localized
  · have unmarked : Mode.hybrid.hasMarkup = false := rfl
    rw [convert_toPlain (by decide) (by decide), unmarked, lexemes_hybridized passes,
      List.flatMap_map]
    calc (lexemes false source).flatMap _
        = (lexemes false source).flatMap Lexeme.text :=
          List.flatMap_congr fun lexeme member => (passes lexeme member).primary
      _ = source := concat_lexemes false source

theorem hybrid_smallLexicon : smallLexicon.Hybrid where
  builtIn := rfl
  localizedWord := by decide +kernel
  primaryWord := by decide +kernel
  apart := by decide +kernel

theorem hybrid_passage_nested :
    smallLexicon.Hybrid ∧ Carriable nestedText ∧
      let localizedText := convert smallLexicon .primary .localized nestedText
      let hybridText := convert smallLexicon .localized .hybrid localizedText
      convert smallLexicon .hybrid .localized hybridText = localizedText ∧
        convert smallLexicon .hybrid .primary hybridText = nestedText :=
  ⟨hybrid_smallLexicon, carriable_nestedText, hybrid_passage smallLexicon nestedText
    hybrid_smallLexicon carriable_nestedText (by decide +kernel)⟩

end Diglot
