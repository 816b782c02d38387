import Diglot.Proofs.HybridPassage
import Diglot.Proofs.Shadowing
import Diglot.Proofs.StrippedMarkup

/-!
# Round from hybrid text to hybrid text

A hybrid text is made primary, the primary text localized, and that made hybrid again; the text that
comes out is the one that went in (`hybrid_cycle`). On the first way the names are replaced by
primary words and no markup keeps these apart, so that the text has to keep its numbers apart from
its names. From the primary text on, each lexeme passes through localized text as any lexeme of a
primary text does (`Lexeme.Passes`), and its hybrid form is the lexeme that it came from.
-/

set_option autoImplicit false

namespace Diglot

variable {lexicon : Lexicon} {lexeme : Lexeme} {source primary : Text}

/-! ## One lexeme -/

/-- The library has no symbol of the keywords, on whichever side. -/
def Lexicon.LibraryApart (lexicon : Lexicon) : Prop :=
  ∀ symbol ∈ lexicon.library.localizedSymbols ++ lexicon.library.primarySymbols,
    symbol ∉ lexicon.keywords.localizedSymbols ++ lexicon.keywords.primarySymbols

/-- What the primary form of a hybrid lexeme has to be: it is read from the lexeme, it stands in its
place, and the hybrid form that it passes through is the lexeme again. -/
structure Lexeme.Cycles (lexicon : Lexicon) (lexeme told : Lexeme) : Prop where
  read : lexeme.reading lexicon .full = told.text
  rewords : Rewords lexeme told
  plain : Uncontrolled told.text
  passes : told.Passes lexicon (told.hybridized lexicon)
  back : (told.hybridized lexicon).text = lexeme.text

theorem cycles_of_noName (shaped : lexeme.Shaped false) (plain : Uncontrolled lexeme.text)
    (noBackslash : lexeme ≠ ⟨.operator, ['\\']⟩)
    (noName : Scope.full.affects lexeme.kind = false) : lexeme.Cycles lexicon lexeme where
  read := by
    rw [reading_of_noName noName]
    exact plainText_of_noName shaped plain noBackslash noName
  rewords := .inl rfl
  plain := plain
  passes := by
    rw [hybridized_of_noName noName]
    exact passes_of_noName shaped plain noBackslash noName
  back := by rw [hybridized_of_noName noName]

/-- A name without primary counterpart stays, whatever way it passes. -/
theorem cycles_of_unknown (name : Scope.full.affects lexeme.kind = true)
    (plain : Uncontrolled lexeme.text)
    (unknown : lexicon.counterpart? .toPrimary lexeme.text = none)
    (same : lexeme.hybridized lexicon = lexeme) (passes : lexeme.Passes lexicon lexeme) :
    lexeme.Cycles lexicon lexeme where
  read := by
    rw [Lexeme.reading, Lexeme.reword_eq_self fun _ => unknown]
    exact plainText_of_name name plain
  rewords := .inl rfl
  plain := plain
  passes := by
    rw [same]
    exact passes
  back := by rw [same]

/-- A foreign name becomes a primary word, and is found again from there. -/
theorem cycles_of_foreign (name : Scope.full.affects lexeme.kind = true)
    (foreign : Entry.Foreign ⟨lexeme.text, primary⟩)
    (noKeyword : Keyword.isKeyword lexeme.text = false)
    (found : lexicon.counterpart? .toPrimary lexeme.text = some primary)
    (back : lexicon.counterpart? .toLocalized primary = some lexeme.text) :
    lexeme.Cycles lexicon ⟨wordKind primary, primary⟩ := by
  have plainPrimary : Uncontrolled primary := isControl_eq_false_of_mem_word foreign.primaryWord
  have hybridized : Lexeme.hybridized lexicon ⟨wordKind primary, primary⟩ =
      ⟨.identifier, lexeme.text⟩ :=
    hybridized_of_foreign (affects_full_wordKind primary) back noKeyword
  exact {
    read := by
      have reworded : lexeme.reword lexicon .toPrimary .full = ⟨lexeme.kind, primary⟩ := by
        simp [Lexeme.reword, name, found]
      rw [Lexeme.reading, reworded]
      exact plainText_of_name name plainPrimary
    rewords := .inr ⟨name, foreign.localizedWord, head?_ne_of_startsForeign foreign.startsForeign,
      foreign.primaryWord, rfl⟩
    plain := plainPrimary
    passes := by
      rw [hybridized]
      exact passes_of_foreign plainPrimary (affects_full_wordKind primary) back found
        foreign.localizedWord foreign.startsForeign noKeyword foreign.primaryWord foreign.noDollar
    back := by rw [hybridized] }

/-- A name that a tier below the keywords gives a primary counterpart is no keyword, and the
counterpart leads back to it. -/
theorem Lexicon.Foreign.undone (foreign : lexicon.Foreign) (apart : lexicon.LibraryApart)
    {symbol : Text} (noKeyword : symbol ∉ Keyword.localizedWords)
    (found : lexicon.counterpart? .toPrimary symbol = some primary) :
    Keyword.isKeyword symbol = false ∧
      lexicon.counterpart? .toLocalized primary = some symbol := by
  have starts := (foreign.of_toPrimary found).startsForeign
  refine ⟨Keyword.isKeyword_eq_false starts noKeyword, ?_⟩
  rcases counterpart?_eq_some_iff.1 found with keyword | ⟨-, library | ⟨-, project⟩⟩
  · have member : symbol ∈ lexicon.keywords.localizedSymbols :=
      List.mem_map_of_mem (Glossary.primaryOf?_eq_some_iff.1 keyword)
    rw [foreign.builtIn] at member
    exact absurd member noKeyword
  · have member : primary ∈ lexicon.library.primarySymbols :=
      List.mem_map_of_mem (Glossary.primaryOf?_eq_some_iff.1 library)
    apply undone_of_library library
    intro shadows
    exact apart primary (List.mem_append_right _ member) (List.mem_append_right _ shadows)
  · exact undone_of_project project

/-- A name without primary counterpart that has a localized one is a keyword of the table, if the
other tiers do not have it as a primary symbol. -/
theorem Lexicon.Foreign.keyword_of_toLocalized (foreign : lexicon.Foreign) {symbol word : Text}
    (fromTable : symbol ∉ lexicon.keywords.primarySymbols → symbol ∉ lexicon.primarySymbols)
    (found : lexicon.counterpart? .toLocalized symbol = some word) :
    Keyword.isKeyword symbol = true ∧ Keyword.isKeyword word = true ∧
      lexicon.counterpart? .toPrimary word = some symbol := by
  have inTable : symbol ∈ lexicon.keywords.primarySymbols := by
    by_contra outside
    rw [toLocalized_eq_none_iff.2 (fromTable outside)] at found
    simp at found
  have keyword : lexicon.keywords.counterpart? .toLocalized symbol = some word := by
    rcases counterpart?_eq_some_iff.1 found with keyword | ⟨unknown, -⟩
    · exact keyword
    · exact absurd inTable (Glossary.localizedOf?_eq_none_iff.1 unknown)
  have back := undone_of_keywords keyword
  rw [foreign.builtIn] at inTable keyword
  exact ⟨Keyword.isKeyword_of_primary inTable,
    Keyword.isKeyword_of_localized (Glossary.mem_localizedSymbols keyword), back⟩

/-- Every lexeme of a hybrid text cycles through its primary form. -/
theorem Lexicon.Foreign.cycles (foreign : lexicon.Foreign) (apart : lexicon.LibraryApart)
    (carriable : Carriable source) (member : lexeme ∈ lexemes false source)
    (primaryKeyword : lexeme.kind = .keyword → lexeme.text ∉ Keyword.localizedWords)
    (fromTable : Scope.full.affects lexeme.kind = true →
      lexeme.text ∉ lexicon.keywords.primarySymbols → lexeme.text ∉ lexicon.primarySymbols) :
    lexeme.Cycles lexicon (lexeme.retold lexicon .toPrimary) := by
  have shaped : lexeme.Shaped false := shaped_of_mem member
  have plain := carriable.lexeme_uncontrolled member
  cases name : Scope.full.affects lexeme.kind with
  | false =>
    rw [retold_of_noName name]
    exact cycles_of_noName shaped plain (carriable.lexeme_ne member) name
  | true =>
    cases known : lexicon.counterpart? .toPrimary lexeme.text with
    | some primary =>
      have noKeyword : lexeme.text ∉ Keyword.localizedWords := by
        intro localized
        have isKeyword := Keyword.isKeyword_of_localized localized
        exact primaryKeyword (keyword_of_isKeyword shaped name isKeyword) localized
      obtain ⟨noKeyword, back⟩ := foreign.undone apart noKeyword known
      rw [retold_of_known name known]
      exact cycles_of_foreign name (foreign.of_toPrimary known) noKeyword known back
    | none =>
      rw [retold_of_unknown known]
      cases found : lexicon.counterpart? .toLocalized lexeme.text with
      | none =>
        exact cycles_of_unknown name plain known (hybridized_of_kept found)
          (passes_of_kept shaped plain name known found)
      | some word =>
        obtain ⟨isKeyword, wordKeyword, back⟩ :=
          foreign.keyword_of_toLocalized (fromTable name) found
        exact cycles_of_unknown name plain known (hybridized_of_keyword found wordKeyword)
          (passes_of_keyword plain known (keyword_of_isKeyword shaped name isKeyword) found back
            (Keyword.isWord_of_isKeyword wordKeyword) wordKeyword)

/-! ## A whole text -/

/-- Primary text is the concatenation of the primary lexemes. -/
theorem convert_primary_eq
    (cycles : ∀ lexeme ∈ lexemes false source,
      lexeme.Cycles lexicon (lexeme.retold lexicon .toPrimary)) :
    convert lexicon .hybrid .primary source =
      Lexeme.concat ((lexemes false source).map (Lexeme.retold lexicon .toPrimary)) := by
  rw [convert_toPlain (by decide) (by decide), Lexeme.concat, List.flatMap_map]
  exact List.flatMap_congr fun lexeme member => (cycles lexeme member).read

/-- The scanner finds the primary lexemes in it, and localized text can carry it. -/
theorem Carriable.retold (carriable : Carriable source)
    (numbers : NumbersApart (lexemes false source))
    (cycles : ∀ lexeme ∈ lexemes false source,
      lexeme.Cycles lexicon (lexeme.retold lexicon .toPrimary)) :
    let told := (lexemes false source).map (Lexeme.retold lexicon .toPrimary)
    lexemes false (Lexeme.concat told) = told ∧ Carriable (Lexeme.concat told) := by
  intro told
  have found (localized : Bool) : lexemes localized (Lexeme.concat told) = told := by
    have same : lexemesFrom localized .top source = lexemes false source := by
      cases localized with
      | false => rfl
      | true => exact carriable.lexemes_eq
    have reworded : List.Forall₂ Rewords (lexemesFrom localized .top source) told := by
      rw [same, List.forall₂_map_right_iff, List.forall₂_same]
      exact fun lexeme member => (cycles lexeme member).rewords
    rw [← same] at numbers
    exact lexemesFrom_reworded reworded (numbersEnd_of_apart reworded numbers)
  refine ⟨found false, ?_, ?_, ?_⟩
  · intro c member
    obtain ⟨lexeme, inTold, inText⟩ := List.mem_flatMap.1 member
    obtain ⟨first, scanned, rfl⟩ := List.mem_map.1 inTold
    exact (cycles first scanned).plain c inText
  · intro token scanned same
    have member : token.lexeme ∈ lexemes false (Lexeme.concat told) := by
      rw [← map_lexeme_scan]
      exact List.mem_map_of_mem scanned
    rw [found false, same] at member
    obtain ⟨first, inSource, backslash⟩ := List.mem_map.1 member
    rcases (cycles first inSource).rewords with kept | ⟨-, -, -, word, -⟩
    · exact carriable.lexeme_ne inSource (kept.symm.trans backslash)
    · rw [backslash] at word
      exact absurd word (by decide)
  · rw [scan, scan, found true, found false]

/-- A hybrid text that is made primary, then localized and then hybrid again is the text that it
was, if it has no localized keyword, keeps its numbers apart from its names, and has no primary
symbol but those of the keywords. -/
theorem hybrid_cycle (lexicon : Lexicon) (source : Text) (foreign : lexicon.Foreign)
    (apart : lexicon.LibraryApart) (carriable : Carriable source)
    (primaryKeywords : ∀ token ∈ scan false source, token.lexeme.kind = .keyword →
      token.lexeme.text ∉ Keyword.localizedWords)
    (numbers : NumbersApart ((scan false source).map Token.lexeme))
    (fromTable : ∀ token ∈ scan false source,
      token.lexeme.kind = .keyword ∨ token.lexeme.kind = .identifier →
        token.lexeme.text ∉ lexicon.keywords.primarySymbols →
          token.lexeme.text ∉ lexicon.primarySymbols) :
    convert lexicon .localized .hybrid
      (convert lexicon .primary .localized (convert lexicon .hybrid .primary source)) = source := by
  have cycles : ∀ lexeme ∈ lexemes false source,
      lexeme.Cycles lexicon (lexeme.retold lexicon .toPrimary) := by
    intro lexeme member
    have member' := member
    rw [← map_lexeme_scan] at member'
    obtain ⟨token, scanned, rfl⟩ := List.mem_map.1 member'
    exact foreign.cycles apart carriable member (primaryKeywords token scanned)
      fun name => fromTable token scanned (affects_full_iff.1 name)
  rw [map_lexeme_scan] at numbers
  obtain ⟨found, toldCarriable⟩ := carriable.retold numbers cycles
  have passes : ∀ told ∈ lexemes false
      (Lexeme.concat ((lexemes false source).map (Lexeme.retold lexicon .toPrimary))),
      told.Passes lexicon (told.hybridized lexicon) := by
    intro told member
    rw [found] at member
    obtain ⟨lexeme, scanned, rfl⟩ := List.mem_map.1 member
    exact (cycles lexeme scanned).passes
  rw [convert_primary_eq cycles, convert_hybrid_eq toldCarriable passes, found]
  calc Lexeme.concat (((lexemes false source).map (Lexeme.retold lexicon .toPrimary)).map
        (Lexeme.hybridized lexicon))
      = (lexemes false source).flatMap fun lexeme =>
          ((lexeme.retold lexicon .toPrimary).hybridized lexicon).text := by
        rw [Lexeme.concat, List.flatMap_map, List.flatMap_map]
    _ = (lexemes false source).flatMap Lexeme.text :=
        List.flatMap_congr fun lexeme member => (cycles lexeme member).back
    _ = source := concat_lexemes false source

/-- A text with localized names, numbers next to operators and points, and an interpolation inside
another. -/
def hybridText : Text :=
  ("if 0x1F+".toList ++ ['נ', 'א', 'מ', 'ע', 'ן']) ++ " / 1.5..<2\n".toList ++
    (['ד', 'ר', 'ו', 'ק'] ++ "(\"a \\(f(\"\\(".toList) ++
      (['נ', 'א', 'מ', 'ע', 'ן'] ++ ")\")) b\")\n`open".toList)

theorem carriable_hybridText : Carriable hybridText where
  uncontrolled := by decide +kernel
  noBackslash := by decide +kernel
  sameScan := congrArg (Token.place 0)
    (by decide +kernel : lexemes true hybridText = lexemes false hybridText)

theorem hybrid_cycle_nested :
    smallLexicon.Foreign ∧ smallLexicon.LibraryApart ∧ Carriable hybridText ∧
      NumbersApart ((scan false hybridText).map Token.lexeme) ∧
      convert smallLexicon .localized .hybrid
        (convert smallLexicon .primary .localized
          (convert smallLexicon .hybrid .primary hybridText)) = hybridText :=
  have apart : smallLexicon.LibraryApart := by
    unfold Lexicon.LibraryApart
    decide +kernel
  have numbers : NumbersApart ((scan false hybridText).map Token.lexeme) := by decide +kernel
  ⟨foreign_smallLexicon, apart, carriable_hybridText, numbers,
    hybrid_cycle smallLexicon hybridText foreign_smallLexicon apart carriable_hybridText
      (by decide +kernel) numbers (by decide +kernel)⟩

end Diglot
