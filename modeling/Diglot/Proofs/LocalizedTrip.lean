import Diglot.Conversion
import Diglot.Proofs.Decoding
import Diglot.Proofs.Lookup

/-!
# Through localized text and back

A text that is converted to the localized mode and back is the text again, if its words find their
way back through the lexicon. The lexemes of localized text are read without their controls
(`convert_render`), and each of them is written as the lexeme it came from.

The main results are the ways from the primary mode (`primary_trip`) and from the hybrid mode
(`hybrid_trip`).
-/

set_option autoImplicit false

namespace Diglot

open Markup (isControl stripControls plainText)

variable {lexicon : Lexicon} {scope : Scope} {lexeme : Lexeme} {mode : Mode} {source : Text}

/-- The lexeme as a mode without markup writes it, with its primary counterpart in place. -/
def Lexeme.reading (lexicon : Lexicon) (scope : Scope) (lexeme : Lexeme) : Text :=
  plainText (lexeme.reword lexicon .toPrimary scope)

/-! ## Conversions as readings -/

theorem convert_toLocalized (unmarked : mode ≠ .localized) :
    convert lexicon mode .localized source =
      Markup.render .localized ((lexemes false source).map
        (Lexeme.reword lexicon .toLocalized (mode.scopeTo .localized))) := by
  cases mode with
  | localized => exact absurd rfl unmarked
  | primary | hybrid => rfl

theorem convert_toPlain {target : Mode} (unmarked : target ≠ .localized) (other : mode ≠ target) :
    convert lexicon mode target source =
      (lexemes mode.hasMarkup source).flatMap (Lexeme.reading lexicon (mode.scopeTo target)) := by
  rw [convert, if_neg other]
  cases target with
  | localized => exact absurd rfl unmarked
  | primary | hybrid => exact List.flatMap_map _ _ _

/-- The same words change on the way back. -/
theorem Mode.scopeTo_localized (mode : Mode) :
    Mode.scopeTo .localized mode = mode.scopeTo .localized := by
  cases mode <;> rfl

/-! ## Bare lexemes read the same -/

theorem stripControls_stripControls (text : Text) :
    stripControls (stripControls text) = stripControls text := by
  simp [stripControls, List.filter_filter]

theorem plainText_bare (lexeme : Lexeme) : plainText lexeme.bare = plainText lexeme := by
  simp only [plainText, Lexeme.bare, stripControls_stripControls]

theorem Lexeme.reword_eq_self {direction : Direction}
    (unknown : scope.affects lexeme.kind = true →
      lexicon.counterpart? direction lexeme.text = none) :
    lexeme.reword lexicon direction scope = lexeme := by
  rw [Lexeme.reword]
  split
  · next affected => simp [unknown affected]
  · rfl

/-- The lexeme that the scanner finds where a name was reworded: a word in place of a name has its
own kind. -/
def Lexeme.retold (lexicon : Lexicon) (direction : Direction) (lexeme : Lexeme) : Lexeme :=
  match lexicon.counterpart? direction lexeme.text with
  | some word => if Scope.full.affects lexeme.kind then ⟨wordKind word, word⟩ else lexeme
  | none => lexeme

section Retold

variable {direction : Direction}

theorem retold_of_noName (noName : Scope.full.affects lexeme.kind = false) :
    lexeme.retold lexicon direction = lexeme := by
  unfold Lexeme.retold
  split <;> simp [noName]

theorem retold_of_unknown (unknown : lexicon.counterpart? direction lexeme.text = none) :
    lexeme.retold lexicon direction = lexeme := by
  simp [Lexeme.retold, unknown]

theorem retold_of_known {word : Text} (name : Scope.full.affects lexeme.kind = true)
    (found : lexicon.counterpart? direction lexeme.text = some word) :
    lexeme.retold lexicon direction = ⟨wordKind word, word⟩ := by
  simp [Lexeme.retold, name, found]

end Retold

/-- A name that is a keyword by its text is one by its kind. -/
theorem keyword_of_isKeyword {localized : Bool} (shaped : lexeme.Shaped localized)
    (name : Scope.full.affects lexeme.kind = true)
    (isKeyword : Keyword.isKeyword lexeme.text = true) : lexeme.kind = .keyword := by
  rcases affects_full_iff.1 name with keyword | identifier
  · exact keyword
  · rcases shaped.identifier identifier with ⟨-, noKeyword⟩ | escaped
    · simp [isKeyword] at noKeyword
    · exact absurd escaped (isWord_head?_ne (Keyword.isWord_of_isKeyword isKeyword))

/-- No escaped name has a primary counterpart that would be put in place. -/
def EscapedUnknown (lexicon : Lexicon) (scope : Scope) : Prop :=
  scope.affects .identifier = true → ∀ text : Text, text.head? = some backtick →
    lexicon.counterpart? .toPrimary text = none

theorem head?_bare_of_escaped (escaped : lexeme.text.head? = some backtick) :
    lexeme.bare.text.head? = some backtick := by
  cases text : lexeme.text with
  | nil => simp [text] at escaped
  | cons c cs =>
    obtain rfl : c = backtick := by simpa [text] using escaped
    simp [Lexeme.bare, text, stripControls, show isControl backtick = false by decide]

/-- A scanned lexeme is bare of controls, or nothing is put in its place. -/
theorem bare_or_reword_eq_self (escapedUnknown : EscapedUnknown lexicon scope)
    (shaped : lexeme.Shaped true) :
    lexeme.bare = lexeme ∨
      lexeme.reword lexicon .toPrimary scope = lexeme ∧
        lexeme.bare.reword lexicon .toPrimary scope = lexeme.bare := by
  have bare_of_word (word : isWord lexeme.text = true) : lexeme.bare = lexeme := by
    have plain : Uncontrolled lexeme.text := isControl_eq_false_of_mem_word word
    rw [Lexeme.bare, plain.stripControls]
  have unaffected (other : scope.affects lexeme.kind = false) :
      lexeme.reword lexicon .toPrimary scope = lexeme ∧
        lexeme.bare.reword lexicon .toPrimary scope = lexeme.bare := by
    simp [Lexeme.reword, Lexeme.bare, other]
  cases affected : scope.affects lexeme.kind with
  | false => exact .inr (unaffected affected)
  | true =>
    have full : Scope.full.affects lexeme.kind = true := by
      cases kind : lexeme.kind <;> simp_all [Scope.affects]
    rcases affects_full_iff.1 full with keyword | identifier
    · exact .inl (bare_of_word (shaped.keyword keyword).1)
    · rcases shaped.identifier identifier with ⟨word, -⟩ | escaped
      · exact .inl (bare_of_word word)
      · have unknown := escapedUnknown (identifier ▸ affected)
        exact .inr ⟨Lexeme.reword_eq_self fun _ => unknown _ escaped,
          Lexeme.reword_eq_self fun _ => unknown _ (head?_bare_of_escaped escaped)⟩

theorem reading_bare (escapedUnknown : EscapedUnknown lexicon scope)
    (shaped : lexeme.Shaped true) :
    lexeme.bare.reading lexicon scope = lexeme.reading lexicon scope := by
  rcases bare_or_reword_eq_self escapedUnknown shaped with same | ⟨kept, bareKept⟩
  · rw [same]
  · rw [Lexeme.reading, Lexeme.reading, kept, bareKept, plainText_bare]

theorem reading_of_bare_empty (escapedUnknown : EscapedUnknown lexicon scope)
    (shaped : lexeme.Shaped true) (empty : lexeme.bare.text = []) :
    lexeme.reading lexicon scope = [] := by
  rcases bare_or_reword_eq_self escapedUnknown shaped with same | ⟨-, bareKept⟩
  · rw [same] at empty
    exact absurd empty shaped.nonempty
  · rw [← reading_bare escapedUnknown shaped, Lexeme.reading, bareKept]
    cases kind : lexeme.bare.kind <;> simp [plainText, kind, empty, Markup.plainDelimiter]

/-- Lexemes are read as their bare lexemes are. -/
theorem flatMap_reading_bareLexemes (escapedUnknown : EscapedUnknown lexicon scope)
    {lexemes : List Lexeme} (shaped : ∀ lexeme ∈ lexemes, lexeme.Shaped true) :
    (bareLexemes lexemes).flatMap (Lexeme.reading lexicon scope) =
      lexemes.flatMap (Lexeme.reading lexicon scope) := by
  induction lexemes with
  | nil => rfl
  | cons lexeme lexemes ih =>
    have ih := ih fun l member => shaped l (List.mem_cons_of_mem _ member)
    have first := shaped lexeme (by simp)
    rw [List.flatMap_cons, ← ih]
    by_cases empty : stripControls lexeme.text = []
    · rw [bareLexemes_cons_empty empty, reading_of_bare_empty escapedUnknown first empty]
      rfl
    · rw [← reading_bare escapedUnknown first]
      have split : bareLexemes (lexeme :: lexemes) = lexeme.bare :: bareLexemes lexemes :=
        bareLexemes_cons rfl empty lexemes
      rw [split, List.flatMap_cons]

/-! ## Respelled lexemes read back -/

theorem flatMap_reading_operators (pieces : List Text) :
    (pieces.map (Lexeme.mk .operator)).flatMap (Lexeme.reading lexicon scope) =
      (stripControls pieces.flatten).map Markup.forwardSlash := by
  induction pieces with
  | nil => rfl
  | cons piece pieces ih =>
    have first : Lexeme.reading lexicon scope ⟨.operator, piece⟩ =
        (stripControls piece).map Markup.forwardSlash := by
      cases scope <;> rfl
    rw [List.map_cons, List.flatMap_cons, ih, first, List.flatten_cons, stripControls_append,
      List.map_append]

/-- An operator without backslash has its slashes turned round twice. -/
theorem forwardSlash_swapSlashes {text : Text} (operators : ∀ c ∈ text, isOperatorChar c = true) :
    (stripControls (Markup.swapSlashes text)).map Markup.forwardSlash = text := by
  have plain : Uncontrolled (Markup.swapSlashes text) := by
    intro c member
    obtain ⟨d, inText, rfl⟩ := List.mem_map.1 member
    exact isControl_eq_false_of_operator (swapSlash_operator (operators d inText))
  rw [plain.stripControls, Markup.swapSlashes, List.map_map, List.map_congr_left (g := id),
    List.map_id]
  intro c member
  have noBackslash := ne_backslash_of_operator (operators c member)
  by_cases slash : c = '/'
  · simp [slash, Markup.swapSlash, Markup.forwardSlash]
  · simp [slash, noBackslash, Markup.swapSlash, Markup.forwardSlash]

theorem reading_of_noName (noName : Scope.full.affects lexeme.kind = false) :
    lexeme.reading lexicon scope = plainText lexeme := by
  have unaffected : scope.affects lexeme.kind = false := by
    cases kind : lexeme.kind <;> cases scope <;> simp_all [Scope.affects]
  rw [Lexeme.reading, Lexeme.reword_eq_self (by simp [unaffected])]

/-- A lexeme that is no name is written without markup as it is. -/
theorem plainText_of_noName (shaped : lexeme.Shaped false) (plain : Uncontrolled lexeme.text)
    (noBackslash : lexeme ≠ ⟨.operator, ['\\']⟩)
    (noName : Scope.full.affects lexeme.kind = false) : plainText lexeme = lexeme.text := by
  have stripped := plain.stripControls
  rcases lexeme with ⟨kind, text⟩
  cases kind with
  | keyword | identifier => simp [Scope.affects] at noName
  | operator =>
    have operators := (shaped.operator rfl).resolve_left fun alone =>
      noBackslash (congrArg (Lexeme.mk .operator) alone)
    have each : ∀ c ∈ text, Markup.forwardSlash c = id c := by
      intro c member
      rw [Markup.forwardSlash, if_neg (ne_backslash_of_operator (operators c member))]
      rfl
    calc (Markup.stripControls text).map Markup.forwardSlash
        = text.map Markup.forwardSlash := congrArg _ stripped
      _ = text.map id := List.map_congr_left each
      _ = text := List.map_id text
  | delimiter =>
    have text_eq : text = ['\\', '('] ∨ text = [')'] := by simpa using shaped.delimiter rfl
    rcases text_eq with rfl | rfl <;> rfl
  | stringLiteral | comment | whitespace | punctuation | numberLiteral | unknown => exact stripped

/-- A lexeme that is no name is written in localized text so that it is read back. -/
theorem flatMap_reading_respelled (shaped : lexeme.Shaped false)
    (plain : Uncontrolled lexeme.text) (noBackslash : lexeme ≠ ⟨.operator, ['\\']⟩)
    (noName : Scope.full.affects lexeme.kind = false) :
    lexeme.respelled.flatMap (Lexeme.reading lexicon scope) = lexeme.text := by
  have itself (same : lexeme.respelled = [lexeme]) :
      lexeme.respelled.flatMap (Lexeme.reading lexicon scope) = lexeme.text := by
    rw [same, List.flatMap_singleton, reading_of_noName noName]
    exact plainText_of_noName shaped plain noBackslash noName
  rcases lexeme with ⟨kind, text⟩
  cases kind with
  | keyword | identifier => simp [Scope.affects] at noName
  | operator =>
    have operators := (shaped.operator rfl).resolve_left fun alone =>
      noBackslash (congrArg (Lexeme.mk .operator) alone)
    have spelled : Lexeme.respelled ⟨.operator, text⟩ =
        (slashPieces (Markup.swapSlashes text)).map (Lexeme.mk .operator) := rfl
    rw [spelled, flatMap_reading_operators, flatten_slashPieces]
    exact forwardSlash_swapSlashes operators
  | delimiter =>
    have text_eq : text = ['\\', '('] ∨ text = [')'] := by simpa using shaped.delimiter rfl
    rcases text_eq with rfl | rfl <;> cases scope <;> rfl
  | stringLiteral | comment | whitespace | punctuation | numberLiteral | unknown =>
    exact itself rfl

/-- A scanned name is read as itself. -/
theorem respelled_of_scanned {localized : Bool} (shaped : lexeme.Shaped localized)
    (name : Scope.full.affects lexeme.kind = true) : lexeme.respelled = [lexeme] := by
  rcases lexeme with ⟨kind, text⟩
  rcases affects_full_iff.1 name with keyword | identifier
  · obtain rfl : kind = .keyword := keyword
    obtain ⟨word, isKeyword⟩ := shaped.keyword rfl
    rw [respelled_of_word name word, wordKind, if_pos isKeyword]
  · obtain rfl : kind = .identifier := identifier
    rcases shaped.identifier rfl with ⟨word, noKeyword⟩ | escaped
    · rw [respelled_of_word name word, wordKind, if_neg (by simp [noKeyword])]
    · have escaped : text.head? = some backtick := escaped
      simp [Lexeme.respelled, escaped]

theorem plainText_of_name (name : Scope.full.affects lexeme.kind = true)
    (plain : Uncontrolled lexeme.text) : plainText lexeme = lexeme.text := by
  rcases affects_full_iff.1 name with kind | kind <;>
    simp [plainText, kind, plain.stripControls]

/-- A name without primary counterpart is read back. -/
theorem flatMap_reading_of_unknown (shaped : lexeme.Shaped false)
    (name : Scope.full.affects lexeme.kind = true) (plain : Uncontrolled lexeme.text)
    (unknown : scope.affects lexeme.kind = true →
      lexicon.counterpart? .toPrimary lexeme.text = none) :
    lexeme.respelled.flatMap (Lexeme.reading lexicon scope) = lexeme.text := by
  rw [respelled_of_scanned shaped name, List.flatMap_singleton, Lexeme.reading,
    Lexeme.reword_eq_self unknown, plainText_of_name name plain]

/-- A word in place of a name is read as the name, if the scope affects the word. -/
theorem flatMap_reading_of_known {kind : Kind} {word primary : Text}
    (name : Scope.full.affects kind = true) (isWord : isWord word = true)
    (affected : scope.affects (wordKind word) = true)
    (known : lexicon.counterpart? .toPrimary word = some primary)
    (plain : Uncontrolled primary) :
    (Lexeme.respelled ⟨kind, word⟩).flatMap (Lexeme.reading lexicon scope) = primary := by
  have spelled : Lexeme.respelled ⟨kind, word⟩ = [⟨wordKind word, word⟩] :=
    respelled_of_word name isWord
  have reworded : Lexeme.reword lexicon .toPrimary scope ⟨wordKind word, word⟩ =
      ⟨wordKind word, primary⟩ := by
    simp [Lexeme.reword, affected, known]
  rw [spelled, List.flatMap_singleton, Lexeme.reading, reworded]
  exact plainText_of_name (affects_full_wordKind word) plain

/-! ## The way through localized text -/

/-- A source that localized text can carry: it has no control and no lone backslash, and no opener
that only localized text has. -/
structure Carriable (source : Text) : Prop where
  uncontrolled : Uncontrolled source
  noBackslash : ∀ token ∈ scan false source, token.lexeme ≠ ⟨.operator, ['\\']⟩
  sameScan : scan true source = scan false source

theorem Carriable.lexemes_eq (carriable : Carriable source) :
    lexemes true source = lexemes false source := by
  rw [← map_lexeme_scan, ← map_lexeme_scan, carriable.sameScan]

theorem Carriable.lexeme_ne (carriable : Carriable source)
    (member : lexeme ∈ lexemes false source) : lexeme ≠ ⟨.operator, ['\\']⟩ := by
  rw [← map_lexeme_scan] at member
  obtain ⟨token, scanned, rfl⟩ := List.mem_map.1 member
  exact carriable.noBackslash token scanned

theorem Carriable.lexeme_uncontrolled (carriable : Carriable source)
    (member : lexeme ∈ lexemes false source) : Uncontrolled lexeme.text :=
  carriable.uncontrolled.of_mem member

/-- A text is read from localized text without regard to its controls. -/
theorem convert_localized_eq (unmarked : mode ≠ .localized)
    (escapedUnknown : EscapedUnknown lexicon (Mode.scopeTo .localized mode)) (text : Text) :
    convert lexicon .localized mode text =
      (bareLexemes (lexemes true text)).flatMap
        (Lexeme.reading lexicon (Mode.scopeTo .localized mode)) := by
  have shaped : ∀ lexeme ∈ lexemes true text, lexeme.Shaped true := fun _ member =>
    shaped_of_mem member
  rw [convert_toPlain unmarked unmarked.symm, flatMap_reading_bareLexemes escapedUnknown shaped]
  rfl

/-- The scanner finds the lexemes of a source, with other words in place, in localized text. -/
theorem Carriable.bareLexemes_told (carriable : Carriable source) {told : List Lexeme}
    (rephrased : List.Forall₂ Rephrases (lexemes false source) told) :
    bareLexemes (lexemes true (Markup.render .localized told)) =
      told.flatMap Lexeme.respelled := by
  have same : lexemesFrom true .top source = lexemes false source := carriable.lexemes_eq
  have noBackslash : (⟨.operator, ['\\']⟩ : Lexeme) ∉ lexemesFrom true .top source := by
    rw [same]
    exact fun member => carriable.lexeme_ne member rfl
  have noSlash : (⟨.delimiter, ['/', '(']⟩ : Lexeme) ∉ lexemesFrom true .top source := by
    rw [same]
    exact slash_not_mem source
  rw [← same] at rephrased
  exact Diglot.bareLexemes_render carriable.uncontrolled noBackslash noSlash rephrased

theorem Carriable.bareLexemes_render (carriable : Carriable source) {told : Lexeme → Lexeme}
    (rephrased : ∀ lexeme ∈ lexemes false source, Rephrases lexeme (told lexeme)) :
    bareLexemes (lexemes true (Markup.render .localized ((lexemes false source).map told))) =
      ((lexemes false source).map told).flatMap Lexeme.respelled := by
  apply carriable.bareLexemes_told
  rw [List.forall₂_map_right_iff, List.forall₂_same]
  exact rephrased

/-- The localized text of a source's reworded lexemes is read as their readings. -/
theorem convert_render (carriable : Carriable source) (unmarked : mode ≠ .localized)
    (escapedUnknown : EscapedUnknown lexicon (Mode.scopeTo .localized mode))
    {told : Lexeme → Lexeme}
    (rephrased : ∀ lexeme ∈ lexemes false source, Rephrases lexeme (told lexeme)) :
    convert lexicon .localized mode
        (Markup.render .localized ((lexemes false source).map told)) =
      (lexemes false source).flatMap fun lexeme =>
        (told lexeme).respelled.flatMap
          (Lexeme.reading lexicon (Mode.scopeTo .localized mode)) := by
  rw [convert_localized_eq unmarked escapedUnknown, carriable.bareLexemes_render rephrased,
    List.flatMap_map, List.flatMap_assoc]

/-- Words in place of names rephrase them. -/
theorem rephrases_reword
    (words : ∀ word, scope.affects lexeme.kind = true →
      lexicon.counterpart? .toLocalized lexeme.text = some word → isWord word = true) :
    Rephrases lexeme (lexeme.reword lexicon .toLocalized scope) := by
  cases affected : scope.affects lexeme.kind with
  | false => exact .inl (Lexeme.reword_eq_self (by simp [affected]))
  | true =>
    cases found : lexicon.counterpart? .toLocalized lexeme.text with
    | none => exact .inl (Lexeme.reword_eq_self fun _ => found)
    | some word =>
      refine .inr ⟨?_, Lexeme.kind_reword .., ?_⟩
      · cases kind : lexeme.kind <;> simp_all [Scope.affects]
      · simpa [Lexeme.reword, affected, found] using words word affected found

/-- A text comes back from the localized mode if each of its names does. -/
theorem convert_convert_localized (carriable : Carriable source) (unmarked : mode ≠ .localized)
    (escapedUnknown : EscapedUnknown lexicon (mode.scopeTo .localized))
    (words : ∀ lexeme ∈ lexemes false source, ∀ word,
      (mode.scopeTo .localized).affects lexeme.kind = true →
        lexicon.counterpart? .toLocalized lexeme.text = some word → isWord word = true)
    (names : ∀ lexeme ∈ lexemes false source, Scope.full.affects lexeme.kind = true →
      (lexeme.reword lexicon .toLocalized (mode.scopeTo .localized)).respelled.flatMap
        (Lexeme.reading lexicon (mode.scopeTo .localized)) = lexeme.text) :
    convert lexicon .localized mode (convert lexicon mode .localized source) = source := by
  rw [← Mode.scopeTo_localized] at escapedUnknown
  rw [convert_toLocalized unmarked, convert_render carriable unmarked escapedUnknown fun _ member =>
    rephrases_reword (words _ member), Mode.scopeTo_localized]
  have each : ∀ lexeme ∈ lexemes false source,
      (lexeme.reword lexicon .toLocalized (mode.scopeTo .localized)).respelled.flatMap
        (Lexeme.reading lexicon (mode.scopeTo .localized)) = lexeme.text := by
    intro lexeme member
    cases name : Scope.full.affects lexeme.kind with
    | true => exact names lexeme member name
    | false =>
      have unaffected : (mode.scopeTo .localized).affects lexeme.kind = false := by
        cases kind : lexeme.kind <;> cases mode <;> simp_all [Scope.affects]
      rw [Lexeme.reword_eq_self (by simp [unaffected])]
      exact flatMap_reading_respelled (shaped_of_mem member) (carriable.lexeme_uncontrolled member)
        (carriable.lexeme_ne member) name
  calc (lexemes false source).flatMap _
      = (lexemes false source).flatMap Lexeme.text := List.flatMap_congr each
    _ = source := concat_lexemes false source

/-! ## From the primary mode -/

/-- A text of the primary mode comes back from the localized mode, character for character, if every
localized symbol is a word, the library has no localized keyword, and a name of the text that has no
localized counterpart is not itself a localized symbol. -/
theorem primary_trip (lexicon : Lexicon) (source : Text) (carriable : Carriable source)
    (words : ∀ symbol ∈ lexicon.localizedSymbols, isWord symbol = true)
    (apart : ∀ symbol ∈ lexicon.library.localizedSymbols,
      symbol ∉ lexicon.keywords.localizedSymbols)
    (untold : ∀ token ∈ scan false source,
      token.lexeme.kind = .keyword ∨ token.lexeme.kind = .identifier →
        lexicon.counterpart? .toLocalized token.lexeme.text = none →
          lexicon.counterpart? .toPrimary token.lexeme.text = none) :
    convert lexicon .localized .primary (convert lexicon .primary .localized source) = source := by
  have escapedUnknown : EscapedUnknown lexicon .full := by
    intro _ text escaped
    rw [Lexicon.toPrimary_eq_none_iff]
    exact fun member => isWord_head?_ne (words text member) escaped
  refine convert_convert_localized carriable (by decide) escapedUnknown ?_ ?_
  · intro lexeme _ word _ found
    exact words word (Lexicon.mem_localizedSymbols found)
  · intro lexeme member name
    have name : Scope.full.affects lexeme.kind = true := name
    have plain := carriable.lexeme_uncontrolled member
    have scope : Mode.primary.scopeTo .localized = .full := rfl
    rw [scope]
    cases found : lexicon.counterpart? .toLocalized lexeme.text with
    | none =>
      have unknown : lexicon.counterpart? .toPrimary lexeme.text = none := by
        rw [← map_lexeme_scan] at member
        obtain ⟨token, scanned, rfl⟩ := List.mem_map.1 member
        exact untold token scanned (affects_full_iff.1 name) found
      rw [Lexeme.reword_eq_self fun _ => found]
      exact flatMap_reading_of_unknown (shaped_of_mem member) name plain fun _ => unknown
    | some word =>
      have reworded : lexeme.reword lexicon .toLocalized .full = ⟨lexeme.kind, word⟩ := by
        simp [Lexeme.reword, name, found]
      rw [reworded]
      exact flatMap_reading_of_known name (words word (Lexicon.mem_localizedSymbols found))
        (affects_full_wordKind word) (Lexicon.toPrimary_of_toLocalized apart found) plain

/-- The keywords with one symbol of a library and one name of a project. -/
def smallLexicon : Lexicon where
  keywords := Keyword.glossary
  library := ⟨[⟨['ד', 'ר', 'ו', 'ק'], ['p', 'r', 'i', 'n', 't']⟩], by decide, by decide⟩
  project := ⟨[⟨['נ', 'א', 'מ', 'ע', 'ן'], ['n', 'a', 'm', 'e']⟩], by decide, by decide⟩
  noClash := by decide +kernel

/-- A text with an interpolation inside another and a name that is not closed. -/
def nestedText : Text :=
  "if name / 0x1F\nprint(\"a \\(f(\"\\(x)\")) b\")\n`open".toList

theorem carriable_nestedText : Carriable nestedText where
  uncontrolled := by decide +kernel
  noBackslash := by decide +kernel
  sameScan := congrArg (Token.place 0)
    (by decide +kernel : lexemes true nestedText = lexemes false nestedText)

theorem primary_trip_nested :
    Carriable nestedText ∧
      convert smallLexicon .localized .primary
        (convert smallLexicon .primary .localized nestedText) = nestedText :=
  ⟨carriable_nestedText, primary_trip smallLexicon nestedText carriable_nestedText
    (by decide +kernel) (by decide +kernel) (by decide +kernel)⟩

/-! ## From the hybrid mode -/

theorem escapedUnknown_keywordsOnly (lexicon : Lexicon) :
    EscapedUnknown lexicon .keywordsOnly := by
  intro affected
  simp [Scope.affects] at affected

theorem keyword_of_affects (affected : Scope.keywordsOnly.affects lexeme.kind = true) :
    lexeme.kind = .keyword := by
  cases kind : lexeme.kind <;> simp_all [Scope.affects]

/-- The lexicon looks keywords up in the keyword table alone. -/
def Lexicon.KeywordsFromTable (lexicon : Lexicon) : Prop :=
  ∀ word direction, Keyword.isKeyword word = true →
    lexicon.counterpart? direction word = Keyword.glossary.counterpart? direction word

theorem keywordsFromTable (builtIn : lexicon.keywords = Keyword.glossary)
    (noKeyword : ∀ symbol ∈ lexicon.nameSymbols, Keyword.isKeyword symbol = false) :
    lexicon.KeywordsFromTable := by
  intro word direction isKeyword
  rw [← builtIn]
  refine Lexicon.counterpart?_of_unnamed (fun member => ?_) direction
  simp [noKeyword word member] at isKeyword

/-- A keyword that is no localized keyword comes back as a keyword. -/
theorem flatMap_reading_of_keyword (fromTable : lexicon.KeywordsFromTable)
    (shaped : lexeme.Shaped false) (keyword : lexeme.kind = .keyword)
    (plain : Uncontrolled lexeme.text) (primary : lexeme.text ∉ Keyword.localizedWords) :
    (lexeme.reword lexicon .toLocalized .keywordsOnly).respelled.flatMap
      (Lexeme.reading lexicon .keywordsOnly) = lexeme.text := by
  have isKeyword := (shaped.keyword keyword).2
  have affected : Scope.keywordsOnly.affects lexeme.kind = true := by rw [keyword]; rfl
  have name : Scope.full.affects lexeme.kind = true := by rw [keyword]; rfl
  have found := fromTable lexeme.text .toLocalized isKeyword
  cases localized : Keyword.glossary.localizedOf? lexeme.text with
  | none =>
    have unknown : lexicon.counterpart? .toPrimary lexeme.text = none := by
      rw [fromTable lexeme.text .toPrimary isKeyword]
      exact Glossary.primaryOf?_eq_none_iff.2 primary
    rw [Lexeme.reword_eq_self fun _ => found.trans localized]
    exact flatMap_reading_of_unknown shaped name plain fun _ => unknown
  | some word =>
    have reworded : lexeme.reword lexicon .toLocalized .keywordsOnly = ⟨lexeme.kind, word⟩ := by
      simp [Lexeme.reword, affected, found.trans localized]
    have wordKeyword := Keyword.isKeyword_of_localized (Glossary.mem_localizedSymbols localized)
    have wordAffected : Scope.keywordsOnly.affects (wordKind word) = true := by
      rw [wordKind, if_pos wordKeyword]
      rfl
    have back : lexicon.counterpart? .toPrimary word = some lexeme.text := by
      rw [fromTable word .toPrimary wordKeyword]
      exact Glossary.primaryOf?_iff_localizedOf?.2 localized
    rw [reworded]
    exact flatMap_reading_of_known name (Keyword.isWord_of_localizedOf? localized) wordAffected back
      plain

/-- A text of the hybrid mode comes back from the localized mode, character for character, if it has
no localized keyword and no keyword is a symbol of the library or of the project. -/
theorem hybrid_trip (lexicon : Lexicon) (source : Text)
    (builtIn : lexicon.keywords = Keyword.glossary) (carriable : Carriable source)
    (primaryKeywords : ∀ token ∈ scan false source, token.lexeme.kind = .keyword →
      token.lexeme.text ∉ Keyword.localizedWords)
    (noKeyword : ∀ symbol ∈ lexicon.nameSymbols, Keyword.isKeyword symbol = false) :
    convert lexicon .localized .hybrid (convert lexicon .hybrid .localized source) = source := by
  have fromTable := keywordsFromTable builtIn noKeyword
  refine convert_convert_localized carriable (by decide) (escapedUnknown_keywordsOnly lexicon) ?_ ?_
  · intro lexeme member word affected found
    have shaped : lexeme.Shaped false := shaped_of_mem member
    have isKeyword := (shaped.keyword (keyword_of_affects affected)).2
    rw [fromTable lexeme.text .toLocalized isKeyword] at found
    exact Keyword.isWord_of_localizedOf? found
  · intro lexeme member name
    have shaped : lexeme.Shaped false := shaped_of_mem member
    have plain := carriable.lexeme_uncontrolled member
    have scope : Mode.hybrid.scopeTo .localized = .keywordsOnly := rfl
    rw [scope]
    rcases affects_full_iff.1 name with keyword | identifier
    · rw [← map_lexeme_scan] at member
      obtain ⟨token, scanned, rfl⟩ := List.mem_map.1 member
      exact flatMap_reading_of_keyword fromTable shaped keyword plain
        (primaryKeywords token scanned keyword)
    · have unaffected : Scope.keywordsOnly.affects lexeme.kind = false := by rw [identifier]; rfl
      rw [Lexeme.reword_eq_self (by simp [unaffected])]
      exact flatMap_reading_of_unknown shaped name plain (by simp [unaffected])

theorem hybrid_trip_nested :
    Carriable nestedText ∧
      convert smallLexicon .localized .hybrid
        (convert smallLexicon .hybrid .localized nestedText) = nestedText :=
  ⟨carriable_nestedText, hybrid_trip smallLexicon nestedText rfl carriable_nestedText
    (by decide +kernel) (by decide +kernel)⟩

end Diglot
