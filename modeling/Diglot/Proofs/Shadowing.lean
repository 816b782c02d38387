import Diglot.Proofs.Lookup

/-!
# Lookups that undo each other

In one glossary, a lookup in one direction undoes the lookup in the other. A lexicon asks three
glossaries in order, so a counterpart that one of them gave may be known to an earlier one, and the
way back then ends there. The project tier has no symbol of a higher tier, and nothing is asked
before the keywords. That leaves one exception: the library gave the counterpart, and the keywords
know it on the side where the way back begins (`Shadowed`). There the way back ends at another
symbol, and everywhere else it leads back (`counterpart?_undone_iff`).
-/

set_option autoImplicit false

namespace Diglot

variable {direction : Direction} {symbol found : Text}

namespace Glossary

variable {glossary : Glossary}

def symbolsOn (glossary : Glossary) (side : Side) : List Text :=
  glossary.entries.map (·.symbol side)

/-- A lookup fails exactly for the symbols that are not on the side it searches. -/
theorem counterpart?_eq_none_iff :
    glossary.counterpart? direction symbol = none ↔
      symbol ∉ glossary.symbolsOn direction.origin := by
  cases direction with
  | toPrimary => exact primaryOf?_eq_none_iff
  | toLocalized => exact localizedOf?_eq_none_iff

/-- In one glossary every lookup is undone. -/
theorem counterpart?_opposite (known : glossary.counterpart? direction symbol = some found) :
    glossary.counterpart? direction.opposite found = some symbol := by
  cases direction with
  | toPrimary => exact primaryOf?_iff_localizedOf?.1 known
  | toLocalized => exact primaryOf?_iff_localizedOf?.2 known

/-- A symbol without partner has no counterpart in either direction. -/
theorem counterpart?_of_partner? (unknown : glossary.partner? symbol = none)
    (direction : Direction) : glossary.counterpart? direction symbol = none := by
  obtain ⟨noLocalized, noPrimary⟩ := partner?_eq_none_iff.1 unknown
  cases direction with
  | toPrimary => exact primaryOf?_eq_none_iff.2 noLocalized
  | toLocalized => exact localizedOf?_eq_none_iff.2 noPrimary

end Glossary

namespace Lexicon

variable {lexicon : Lexicon}

/-- The tier that answers a lookup: the first one that knows the symbol. -/
def answeringTier? (lexicon : Lexicon) (direction : Direction) (symbol : Text) : Option Tier :=
  (lexicon.tiers.find? fun (_, glossary) =>
    (glossary.counterpart? direction symbol).isSome).map Prod.fst

/-- The library gave the counterpart, and the keywords know it where the way back begins. -/
def Shadowed (lexicon : Lexicon) (direction : Direction) (symbol found : Text) : Prop :=
  lexicon.answeringTier? direction symbol = some .library ∧
    found ∈ lexicon.keywords.symbolsOn direction.opposite.origin

instance (lexicon : Lexicon) (direction : Direction) (symbol found : Text) :
    Decidable (lexicon.Shadowed direction symbol found) :=
  inferInstanceAs (Decidable (_ ∧ _))

/-- An answer comes from one of the tiers, and the tiers before it do not know the symbol. -/
theorem answeringTier?_cases (known : lexicon.counterpart? direction symbol = some found) :
    (lexicon.answeringTier? direction symbol = some .keywords ∧
        lexicon.keywords.counterpart? direction symbol = some found) ∨
      (lexicon.answeringTier? direction symbol = some .library ∧
        lexicon.keywords.counterpart? direction symbol = none ∧
        lexicon.library.counterpart? direction symbol = some found) ∨
      (lexicon.answeringTier? direction symbol = some .project ∧
        lexicon.project.counterpart? direction symbol = some found) := by
  unfold answeringTier? tiers
  rcases counterpart?_eq_some_iff.1 known with keyword | ⟨noKeyword, library | ⟨noLibrary, project⟩⟩
  · simp [keyword]
  · simp [noKeyword, library]
  · simp [noKeyword, noLibrary, project]

/-! ## The way back from each tier -/

theorem undone_of_keywords (known : lexicon.keywords.counterpart? direction symbol = some found) :
    lexicon.counterpart? direction.opposite found = some symbol := by
  apply counterpart?_eq_some_iff.2
  exact .inl (Glossary.counterpart?_opposite known)

/-- The keywords are asked first on the way back too. -/
theorem undone_of_library (known : lexicon.library.counterpart? direction symbol = some found)
    (clear : found ∉ lexicon.keywords.symbolsOn direction.opposite.origin) :
    lexicon.counterpart? direction.opposite found = some symbol := by
  apply counterpart?_eq_some_iff.2
  refine .inr ⟨?_, .inl (Glossary.counterpart?_opposite known)⟩
  exact Glossary.counterpart?_eq_none_iff.2 clear

/-- The symbols of a project entry are unknown to the tiers that are asked before. -/
theorem undone_of_project (known : lexicon.project.counterpart? direction symbol = some found) :
    lexicon.counterpart? direction.opposite found = some symbol := by
  have back := Glossary.counterpart?_opposite known
  obtain ⟨entry, member, rfl, rfl⟩ := Glossary.counterpart?_eq_some_iff.1 known
  have unknown := partner?_of_mem_project member direction.opposite.origin
  apply counterpart?_eq_some_iff.2
  refine .inr ⟨?_, .inr ⟨?_, back⟩⟩
  · exact Glossary.counterpart?_of_partner? unknown.1 direction.opposite
  · exact Glossary.counterpart?_of_partner? unknown.2 direction.opposite

/-- Where the keywords answer for a symbol of the library, they answer with another symbol: the one
that was asked for is unknown to them. -/
theorem exists_other_of_keywords
    (unknown : lexicon.keywords.counterpart? direction symbol = none)
    (shadows : found ∈ lexicon.keywords.symbolsOn direction.opposite.origin) :
    ∃ other, other ≠ symbol ∧ lexicon.counterpart? direction.opposite found = some other := by
  have answered : lexicon.keywords.counterpart? direction.opposite found ≠ none := by
    intro none
    exact Glossary.counterpart?_eq_none_iff.1 none shadows
  obtain ⟨other, known⟩ := Option.ne_none_iff_exists'.1 answered
  refine ⟨other, ?_, counterpart?_eq_some_iff.2 (.inl known)⟩
  rintro rfl
  have back := Glossary.counterpart?_opposite known
  have twice : direction.opposite.opposite = direction := by cases direction <;> rfl
  rw [twice, unknown] at back
  simp at back

/-- A counterpart leads back to the symbol it was found for, except exactly where the library gave
it and the keywords know it too; there the way back ends at another symbol. -/
theorem counterpart?_undone_iff (lexicon : Lexicon) (direction : Direction) (symbol found : Text)
    (known : lexicon.counterpart? direction symbol = some found) :
    (lexicon.counterpart? direction.opposite found = some symbol ↔
        ¬lexicon.Shadowed direction symbol found) ∧
      (lexicon.Shadowed direction symbol found →
        ∃ other, other ≠ symbol ∧ lexicon.counterpart? direction.opposite found = some other) := by
  have kept (undone : lexicon.counterpart? direction.opposite found = some symbol)
      (clear : ¬lexicon.Shadowed direction symbol found) :
      (lexicon.counterpart? direction.opposite found = some symbol ↔
          ¬lexicon.Shadowed direction symbol found) ∧
        (lexicon.Shadowed direction symbol found →
          ∃ other, other ≠ symbol ∧ lexicon.counterpart? direction.opposite found = some other) :=
    ⟨⟨fun _ => clear, fun _ => undone⟩, fun shadowed => absurd shadowed clear⟩
  rcases answeringTier?_cases known with ⟨tier, keyword⟩ | ⟨tier, unknown, library⟩ |
    ⟨tier, project⟩
  · apply kept (undone_of_keywords keyword)
    simp [Shadowed, tier]
  · by_cases shadows : found ∈ lexicon.keywords.symbolsOn direction.opposite.origin
    · obtain ⟨other, different, answered⟩ := exists_other_of_keywords unknown shadows
      have shadowed : lexicon.Shadowed direction symbol found := ⟨tier, shadows⟩
      refine ⟨⟨?_, fun clear => absurd shadowed clear⟩, fun _ => ⟨other, different, answered⟩⟩
      intro undone
      rw [answered, Option.some.injEq] at undone
      exact absurd undone different
    · apply kept (undone_of_library library shadows)
      exact fun shadowed => shadows shadowed.2
  · apply kept (undone_of_project project)
    simp [Shadowed, tier]

/-- A keyword, a library with a symbol of it on either side, and a name of the project. -/
def shadowedLexicon : Lexicon where
  keywords := ⟨[⟨['א', 'ו', 'י', 'ב'], ['i', 'f']⟩], by decide, by decide⟩
  library :=
    ⟨[⟨['א', 'ו', 'י', 'ב'], ['p', 'r', 'i', 'n', 't']⟩, ⟨['ד', 'ר', 'ו', 'ק'], ['i', 'f']⟩],
      by decide, by decide⟩
  project := ⟨[⟨['ס', 'כ', 'ו', 'ם'], ['s', 'u', 'm']⟩], by decide, by decide⟩
  noClash := by decide

/-- Both symbols of the library are shadowed, each in one direction; the name is not. -/
theorem counterpart?_undone_shadowed :
    (∃ other, other ≠ ['p', 'r', 'i', 'n', 't'] ∧
        shadowedLexicon.counterpart? .toPrimary ['א', 'ו', 'י', 'ב'] = some other) ∧
      (∃ other, other ≠ ['ד', 'ר', 'ו', 'ק'] ∧
        shadowedLexicon.counterpart? .toLocalized ['i', 'f'] = some other) ∧
      shadowedLexicon.counterpart? .toLocalized ['s', 'u', 'm'] = some ['ס', 'כ', 'ו', 'ם'] :=
  ⟨(counterpart?_undone_iff shadowedLexicon .toLocalized ['p', 'r', 'i', 'n', 't'] _ rfl).2
      (by decide),
    (counterpart?_undone_iff shadowedLexicon .toPrimary ['ד', 'ר', 'ו', 'ק'] _ rfl).2 (by decide),
    (counterpart?_undone_iff shadowedLexicon .toPrimary ['ס', 'כ', 'ו', 'ם'] _ rfl).1.2 (by decide)⟩

end Lexicon

end Diglot
