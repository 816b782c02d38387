import Diglot.Proofs.ForeignWords
import Diglot.Proofs.TurnedSlashes

/-!
# Markup carries no meaning

Localized text keeps its meaning when all its controls are taken out (`convert_stripped`), although
the controls also kept its lexemes apart. What is left is the source with foreign words in place of
names, where no lexeme grows together with a foreign word, and with its slashes turned round. So the
scanner finds in the stripped text the lexemes of the marked text, bare of controls
(`lexemes_stripControls`).
-/

set_option autoImplicit false

namespace Diglot

open Markup (isControl stripControls markedText isolate)

variable {lexicon : Lexicon} {lexeme : Lexeme} {source word : Text}

/-! ## Glossaries of foreign words -/

/-- The localized symbol is a foreign word, and the primary symbol is a word without dollar sign. -/
structure Entry.Foreign (entry : Entry) : Prop where
  localizedWord : isWord entry.localized = true
  startsForeign : startsForeign entry.localized = true
  primaryWord : isWord entry.primary = true
  noDollar : entry.primary.head? ≠ some '$'

instance (entry : Entry) : Decidable entry.Foreign :=
  decidable_of_iff
    ((isWord entry.localized = true ∧ startsForeign entry.localized = true) ∧
      isWord entry.primary = true ∧ entry.primary.head? ≠ some '$')
    ⟨fun ⟨⟨a, b⟩, c, d⟩ => ⟨a, b, c, d⟩, fun ⟨a, b, c, d⟩ => ⟨⟨a, b⟩, c, d⟩⟩

def Glossary.Foreign (glossary : Glossary) : Prop :=
  ∀ entry ∈ glossary.entries, entry.Foreign

instance (glossary : Glossary) : Decidable glossary.Foreign :=
  List.decidableBAll _ glossary.entries

/-- The built-in keywords, with a library and a project of foreign words. -/
structure Lexicon.Foreign (lexicon : Lexicon) : Prop where
  builtIn : lexicon.keywords = Keyword.glossary
  library : lexicon.library.Foreign
  project : lexicon.project.Foreign

theorem Keyword.foreign_glossary : glossary.Foreign := by
  decide +kernel

theorem Lexicon.Foreign.keywords (foreign : lexicon.Foreign) : lexicon.keywords.Foreign :=
  foreign.builtIn ▸ Keyword.foreign_glossary

/-- A foreign word stands for a word. -/
theorem Lexicon.Foreign.of_toLocalized (foreign : lexicon.Foreign) {primary : Text}
    (found : lexicon.counterpart? .toLocalized primary = some word) :
    Entry.Foreign ⟨word, primary⟩ := by
  rcases Lexicon.counterpart?_eq_some_iff.1 found with keyword | ⟨-, library | ⟨-, project⟩⟩
  · exact foreign.keywords _ (Glossary.localizedOf?_eq_some_iff.1 keyword)
  · exact foreign.library _ (Glossary.localizedOf?_eq_some_iff.1 library)
  · exact foreign.project _ (Glossary.localizedOf?_eq_some_iff.1 project)

theorem Lexicon.Foreign.of_toPrimary (foreign : lexicon.Foreign) {primary : Text}
    (found : lexicon.counterpart? .toPrimary word = some primary) :
    Entry.Foreign ⟨word, primary⟩ := by
  rcases Lexicon.counterpart?_eq_some_iff.1 found with keyword | ⟨-, library | ⟨-, project⟩⟩
  · exact foreign.keywords _ (Glossary.primaryOf?_eq_some_iff.1 keyword)
  · exact foreign.library _ (Glossary.primaryOf?_eq_some_iff.1 library)
  · exact foreign.project _ (Glossary.primaryOf?_eq_some_iff.1 project)

theorem Lexicon.Foreign.escapedUnknown (foreign : lexicon.Foreign) (scope : Scope) :
    EscapedUnknown lexicon scope := by
  intro _ text escaped
  rw [Option.eq_none_iff_forall_ne_some]
  intro primary found
  exact isWord_head?_ne (foreign.of_toPrimary found).localizedWord escaped

/-! ## One lexeme -/

/-- `lexeme.Localizes reworded told`: both stand in localized text for the lexeme, `reworded` with
its kind and `told` with the kind that the word itself tells, and they are spelled alike there. -/
structure Lexeme.Localizes (lexeme reworded told : Lexeme) : Prop where
  rephrases : Rephrases lexeme reworded
  replaces : Replaces lexeme told
  respelled : told.respelled = reworded.respelled

/-- The lexeme is the same, or a foreign word stands for it in either way. -/
theorem Lexicon.Foreign.localizes (foreign : lexicon.Foreign) (lexeme : Lexeme) :
    lexeme.Localizes (lexeme.reword lexicon .toLocalized .full)
      (lexeme.retold lexicon .toLocalized) := by
  have kept (reworded : lexeme.reword lexicon .toLocalized .full = lexeme)
      (same : lexeme.retold lexicon .toLocalized = lexeme) :
      lexeme.Localizes (lexeme.reword lexicon .toLocalized .full)
        (lexeme.retold lexicon .toLocalized) :=
    ⟨.inl reworded, .inl same, by rw [reworded, same]⟩
  cases name : Scope.full.affects lexeme.kind with
  | false => exact kept (Lexeme.reword_eq_self (by simp [name])) (retold_of_noName name)
  | true =>
    cases found : lexicon.counterpart? .toLocalized lexeme.text with
    | none => exact kept (Lexeme.reword_eq_self fun _ => found) (retold_of_unknown found)
    | some word =>
      obtain ⟨isWord, starts, primary, noDollar⟩ := foreign.of_toLocalized found
      have reworded : lexeme.reword lexicon .toLocalized .full = ⟨lexeme.kind, word⟩ := by
        simp [Lexeme.reword, name, found]
      rw [reworded, retold_of_known name found]
      refine ⟨.inr ⟨name, rfl, isWord⟩, .inr ⟨name, primary, noDollar, isWord, starts, rfl⟩, ?_⟩
      have spelled {kind : Kind} (affected : Scope.full.affects kind = true) :
          Lexeme.respelled ⟨kind, word⟩ = [⟨wordKind word, word⟩] :=
        respelled_of_word affected isWord
      rw [spelled (affects_full_wordKind word), spelled name]

theorem stripControls_isolate {opener : Char} (control : isControl opener = true) (text : Text) :
    stripControls (isolate opener text) = stripControls text := by
  rw [isolate, List.cons_append, stripControls_control control, stripControls_append,
    stripControls_control isControl_popIsolate, stripControls_nil, List.append_nil]

theorem Uncontrolled.swapSlashes {text : Text} (plain : Uncontrolled text) :
    Uncontrolled (Markup.swapSlashes text) := by
  intro c member
  obtain ⟨d, inText, rfl⟩ := List.mem_map.1 member
  rw [Markup.swapSlash]
  split
  · decide
  · split
    · decide
    · exact plain d inText

theorem Uncontrolled.localizedDelimiter {text : Text} (plain : Uncontrolled text) :
    Uncontrolled (Markup.localizedDelimiter text) := by
  rw [Markup.localizedDelimiter.eq_def]
  split
  · intro c member
    rcases List.mem_cons.1 member with rfl | member
    · decide
    · exact plain c (List.mem_cons_of_mem _ member)
  · exact plain

/-- Without its controls the localized text of a lexeme is its spelling. -/
theorem stripControls_markedText (plain : Uncontrolled lexeme.text) :
    stripControls (markedText lexeme) = lexeme.spelling := by
  have stripped := plain.stripControls
  rcases lexeme with ⟨kind, text⟩
  cases kind with
  | keyword | identifier =>
    rw [markedText, stripControls_isolate (by split <;> decide), Lexeme.spelling_eq]
    exact stripped
  | stringLiteral =>
    rw [markedText, stripControls_isolate (by decide), Lexeme.spelling_eq]
    exact stripped
  | operator =>
    rw [markedText, stripControls_isolate (by decide), Lexeme.spelling_eq]
    exact plain.swapSlashes.stripControls
  | delimiter =>
    rw [markedText, stripControls_isolate (by decide), Lexeme.spelling_eq]
    exact plain.localizedDelimiter.stripControls
  | punctuation =>
    rw [markedText, Lexeme.spelling_eq]
    dsimp only
    split
    · rw [stripControls_append, stripped]
      exact List.append_nil text
    · exact stripped
  | whitespace | comment | numberLiteral | unknown =>
    rw [markedText, Lexeme.spelling_eq]
    exact stripped

theorem stripControls_render {lexemes : List Lexeme}
    (plain : ∀ lexeme ∈ lexemes, Uncontrolled lexeme.text) :
    stripControls (Markup.render .localized lexemes) = lexemes.flatMap Lexeme.spelling := by
  induction lexemes with
  | nil => rfl
  | cons first others ih =>
    rw [render_localized_cons, stripControls_append, List.flatMap_cons,
      stripControls_markedText (plain first (by simp)),
      ih fun lexeme member => plain lexeme (List.mem_cons_of_mem _ member)]

/-! ## A whole text -/

/-- A replaced lexeme that is no name stands as it was. -/
theorem Replaces.eq_of_noName {told : Lexeme} (replaces : Replaces lexeme told)
    (noName : Scope.full.affects told.kind = false) : told = lexeme := by
  rcases replaces with same | ⟨-, -, -, -, -, kind⟩
  · exact same
  · simp [kind, affects_full_wordKind] at noName

/-- The source with foreign words in place of its names is scanned into them, and can be turned. -/
theorem Lexicon.Foreign.lexemes_retold (foreign : lexicon.Foreign)
    (carriable : Carriable source) :
    let told := (lexemes false source).map (Lexeme.retold lexicon .toLocalized)
    lexemesFrom true .top (Lexeme.concat told) = told ∧ Turnable .top (Lexeme.concat told) := by
  intro told
  have same : lexemesFrom true .top source = lexemes false source := carriable.lexemes_eq
  have replaced : List.Forall₂ Replaces (lexemesFrom true .top source) told := by
    rw [same, List.forall₂_map_right_iff, List.forall₂_same]
    exact fun lexeme _ => (foreign.localizes lexeme).replaces
  have found : lexemesFrom true .top (Lexeme.concat told) = told := lexemesFrom_concat replaced
  have unnamed (other : Lexeme) (noName : Scope.full.affects other.kind = false)
      (member : other ∈ told) : other ∈ lexemes false source := by
    obtain ⟨lexeme, scanned, rfl⟩ := List.mem_map.1 member
    rw [(foreign.localizes lexeme).replaces.eq_of_noName noName]
    exact scanned
  refine ⟨found, ?_, ?_⟩
  · rw [found]
    exact fun member => carriable.lexeme_ne (unnamed _ rfl member) rfl
  · rw [found]
    exact fun member => slash_not_mem source (unnamed _ rfl member)

/-- The scanner finds the same bare lexemes in localized text with and without its controls. -/
theorem lexemes_stripControls (foreign : lexicon.Foreign) (carriable : Carriable source) :
    lexemes true (stripControls (convert lexicon .primary .localized source)) =
      bareLexemes (lexemes true (convert lexicon .primary .localized source)) := by
  let told := (lexemes false source).map (Lexeme.retold lexicon .toLocalized)
  let reworded := (lexemes false source).map (Lexeme.reword lexicon .toLocalized .full)
  have sameSpelling : told.flatMap Lexeme.respelled = reworded.flatMap Lexeme.respelled := by
    rw [List.flatMap_map, List.flatMap_map]
    exact List.flatMap_congr fun lexeme _ => (foreign.localizes lexeme).respelled
  have plain : ∀ lexeme ∈ reworded, Uncontrolled lexeme.text := by
    intro lexeme member
    obtain ⟨first, scanned, rfl⟩ := List.mem_map.1 member
    rcases (foreign.localizes first).rephrases with same | ⟨-, -, word⟩
    · rw [same]
      exact carriable.lexeme_uncontrolled scanned
    · exact isControl_eq_false_of_mem_word word
  obtain ⟨found, turnable⟩ := foreign.lexemes_retold carriable
  have stripped : stripControls (Markup.render .localized reworded) =
      turnedText .top (Lexeme.concat told) := by
    rw [stripControls_render plain, turnedText, found, ← concat_flatMap_respelled,
      ← concat_flatMap_respelled, sameSpelling]
  rw [convert_toLocalized (by decide)]
  calc lexemes true (stripControls (Markup.render .localized reworded))
      = lexemesFrom true .top (turnedText .top (Lexeme.concat told)) := by rw [stripped, lexemes]
    _ = told.flatMap Lexeme.respelled := by rw [lexemesFrom_turnedText turnable, found]
    _ = reworded.flatMap Lexeme.respelled := sameSpelling
    _ = bareLexemes (lexemes true (Markup.render .localized reworded)) :=
        (carriable.bareLexemes_render fun lexeme _ => (foreign.localizes lexeme).rephrases).symm

/-- Localized text means the same without its controls: both modes without markup are regained from
it as from the text with them. -/
theorem convert_stripped (lexicon : Lexicon) (source : Text) (foreign : lexicon.Foreign)
    (carriable : Carriable source) (target : Mode) (unmarked : target ≠ .localized) :
    let localizedText := convert lexicon .primary .localized source
    convert lexicon .localized target (stripControls localizedText) =
      convert lexicon .localized target localizedText := by
  intro localizedText
  have escapedUnknown := foreign.escapedUnknown (Mode.scopeTo .localized target)
  calc convert lexicon .localized target (stripControls localizedText)
      = (lexemes true (stripControls localizedText)).flatMap
          (Lexeme.reading lexicon (Mode.scopeTo .localized target)) :=
        convert_toPlain unmarked unmarked.symm
    _ = (bareLexemes (lexemes true localizedText)).flatMap
          (Lexeme.reading lexicon (Mode.scopeTo .localized target)) := by
        rw [lexemes_stripControls foreign carriable]
    _ = convert lexicon .localized target localizedText :=
        (convert_localized_eq unmarked escapedUnknown localizedText).symm

theorem foreign_smallLexicon : smallLexicon.Foreign :=
  ⟨rfl, by decide +kernel, by decide +kernel⟩

theorem convert_stripped_nested :
    smallLexicon.Foreign ∧ Carriable nestedText ∧
      let localizedText := convert smallLexicon .primary .localized nestedText
      convert smallLexicon .localized .primary (stripControls localizedText) =
          convert smallLexicon .localized .primary localizedText ∧
        convert smallLexicon .localized .hybrid (stripControls localizedText) =
          convert smallLexicon .localized .hybrid localizedText :=
  ⟨foreign_smallLexicon, carriable_nestedText,
    convert_stripped smallLexicon nestedText foreign_smallLexicon carriable_nestedText .primary
      (by decide),
    convert_stripped smallLexicon nestedText foreign_smallLexicon carriable_nestedText .hybrid
      (by decide)⟩

end Diglot
