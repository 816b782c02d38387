import Diglot.Lexeme.Word
import Diglot.Lexicon
import Mathlib.Data.List.Nodup

/-!
# Looking symbols up

The two lookups of a glossary are membership in its entries, and so inverse to each other. The
lookup of a lexicon asks its tiers in order. What it finds towards the localized side it finds
back, as long as no localized symbol of the library is also one of the keywords
(`Lexicon.toPrimary_of_toLocalized`).

The keyword table holds keywords only: what it finds for a keyword is a keyword again.
-/

set_option autoImplicit false

namespace Diglot

/-- The side on which a direction looks symbols up. -/
def Direction.origin : Direction → Side
  | .toPrimary => .localized
  | .toLocalized => .primary

namespace Glossary

variable {σ : Type} [DecidableEq σ] {glossary : Glossary σ} {localized primary symbol : σ}

/-- The entry with a symbol that occurs once on its side. -/
theorem find?_eq_some_iff {entries : List (Entry σ)} {side : Entry σ → σ}
    (nodup : (entries.map side).Nodup) {entry : Entry σ} :
    entries.find? (side · = symbol) = some entry ↔ entry ∈ entries ∧ side entry = symbol := by
  induction entries with
  | nil => simp
  | cons first entries ih =>
    obtain ⟨fresh, nodup⟩ := List.nodup_cons.1 nodup
    by_cases here : side first = symbol
    · have later : ¬(entry ∈ entries ∧ side entry = symbol) := by
        rintro ⟨member, same⟩
        exact fresh (List.mem_map.2 ⟨entry, member, same.trans here.symm⟩)
      rw [List.find?_cons_of_pos (by simpa using here), List.mem_cons, or_and_right]
      constructor
      · intro found
        obtain rfl := Option.some.inj found
        exact .inl ⟨rfl, here⟩
      · rintro (⟨rfl, -⟩ | member)
        · rfl
        · exact absurd member later
    · have notFirst : ¬(entry = first ∧ side entry = symbol) := by
        rintro ⟨rfl, same⟩
        exact here same
      rw [List.find?_cons_of_neg (by simpa using here), ih nodup, List.mem_cons, or_and_right]
      exact (or_iff_right notFirst).symm

theorem primaryOf?_eq_some_iff :
    glossary.primaryOf? localized = some primary ↔ ⟨localized, primary⟩ ∈ glossary.entries := by
  rw [primaryOf?, Option.map_eq_some_iff]
  constructor
  · rintro ⟨entry, found, rfl⟩
    obtain ⟨member, rfl⟩ := (find?_eq_some_iff glossary.localized_nodup).1 found
    exact member
  · intro member
    exact ⟨_, (find?_eq_some_iff glossary.localized_nodup).2 ⟨member, rfl⟩, rfl⟩

theorem localizedOf?_eq_some_iff :
    glossary.localizedOf? primary = some localized ↔ ⟨localized, primary⟩ ∈ glossary.entries := by
  rw [localizedOf?, Option.map_eq_some_iff]
  constructor
  · rintro ⟨entry, found, rfl⟩
    obtain ⟨member, rfl⟩ := (find?_eq_some_iff glossary.primary_nodup).1 found
    exact member
  · intro member
    exact ⟨_, (find?_eq_some_iff glossary.primary_nodup).2 ⟨member, rfl⟩, rfl⟩

/-- The two lookups are inverse to each other. -/
theorem primaryOf?_iff_localizedOf? :
    glossary.primaryOf? localized = some primary ↔
      glossary.localizedOf? primary = some localized := by
  rw [primaryOf?_eq_some_iff, localizedOf?_eq_some_iff]

theorem primaryOf?_eq_none_iff :
    glossary.primaryOf? symbol = none ↔ symbol ∉ glossary.localizedSymbols := by
  simp [primaryOf?, localizedSymbols]

theorem localizedOf?_eq_none_iff :
    glossary.localizedOf? symbol = none ↔ symbol ∉ glossary.primarySymbols := by
  simp [localizedOf?, primarySymbols]

theorem mem_localizedSymbols (found : glossary.localizedOf? primary = some localized) :
    localized ∈ glossary.localizedSymbols :=
  List.mem_map_of_mem (localizedOf?_eq_some_iff.1 found)

theorem mem_primarySymbols (found : glossary.localizedOf? primary = some localized) :
    primary ∈ glossary.primarySymbols :=
  List.mem_map_of_mem (localizedOf?_eq_some_iff.1 found)

theorem partner?_eq_none_iff :
    glossary.partner? symbol = none ↔
      symbol ∉ glossary.localizedSymbols ∧ symbol ∉ glossary.primarySymbols := by
  rw [partner?, Option.orElse_eq_orElse, Option.orElse_eq_or, Option.or_eq_none_iff,
    primaryOf?_eq_none_iff, localizedOf?_eq_none_iff]

theorem counterpart?_eq_some_iff {direction : Direction} {found : σ} :
    glossary.counterpart? direction symbol = some found ↔
      ∃ entry ∈ glossary.entries, entry.symbol direction.origin = symbol ∧
        entry.symbol direction.opposite.origin = found := by
  cases direction with
  | toPrimary =>
    rw [counterpart?, primaryOf?_eq_some_iff]
    constructor
    · exact fun member => ⟨_, member, rfl, rfl⟩
    · rintro ⟨entry, member, rfl, rfl⟩
      exact member
  | toLocalized =>
    rw [counterpart?, localizedOf?_eq_some_iff]
    constructor
    · exact fun member => ⟨_, member, rfl, rfl⟩
    · rintro ⟨entry, member, rfl, rfl⟩
      exact member

end Glossary

namespace Lexicon

variable {lexicon : Lexicon} {direction : Direction} {localized primary symbol : Text}

theorem counterpart?_eq :
    lexicon.counterpart? direction symbol =
      (lexicon.keywords.counterpart? direction symbol).or
        ((lexicon.library.counterpart? direction symbol).or
          (lexicon.project.counterpart? direction symbol)) := by
  simp only [counterpart?, tiers, List.findSome?_cons, List.findSome?_nil]
  cases lexicon.keywords.counterpart? direction symbol <;>
    cases lexicon.library.counterpart? direction symbol <;>
      cases lexicon.project.counterpart? direction symbol <;> rfl

/-- The tier that a symbol is found in, and that the tiers before it do not know it. -/
theorem counterpart?_eq_some_iff {found : Text} :
    lexicon.counterpart? direction symbol = some found ↔
      lexicon.keywords.counterpart? direction symbol = some found ∨
      lexicon.keywords.counterpart? direction symbol = none ∧
        (lexicon.library.counterpart? direction symbol = some found ∨
          lexicon.library.counterpart? direction symbol = none ∧
            lexicon.project.counterpart? direction symbol = some found) := by
  rw [counterpart?_eq, Option.or_eq_some_iff, Option.or_eq_some_iff]

theorem counterpart?_eq_none_iff :
    lexicon.counterpart? direction symbol = none ↔
      lexicon.keywords.counterpart? direction symbol = none ∧
        lexicon.library.counterpart? direction symbol = none ∧
          lexicon.project.counterpart? direction symbol = none := by
  rw [counterpart?_eq, Option.or_eq_none_iff, Option.or_eq_none_iff]

def localizedSymbols (lexicon : Lexicon) : List Text :=
  lexicon.keywords.localizedSymbols ++ lexicon.library.localizedSymbols ++
    lexicon.project.localizedSymbols

/-- A symbol has a primary counterpart exactly when it is a localized symbol of some tier. -/
theorem toPrimary_eq_none_iff :
    lexicon.counterpart? .toPrimary symbol = none ↔ symbol ∉ lexicon.localizedSymbols := by
  rw [counterpart?_eq_none_iff]
  simp only [Glossary.counterpart?, Glossary.primaryOf?_eq_none_iff, localizedSymbols,
    List.mem_append, not_or, and_assoc]

def primarySymbols (lexicon : Lexicon) : List Text :=
  lexicon.keywords.primarySymbols ++ lexicon.library.primarySymbols ++
    lexicon.project.primarySymbols

/-- A symbol has a localized counterpart exactly when it is a primary symbol of some tier. -/
theorem toLocalized_eq_none_iff :
    lexicon.counterpart? .toLocalized symbol = none ↔ symbol ∉ lexicon.primarySymbols := by
  rw [counterpart?_eq_none_iff]
  simp only [Glossary.counterpart?, Glossary.localizedOf?_eq_none_iff, primarySymbols,
    List.mem_append, not_or, and_assoc]

/-- A localized counterpart is a localized symbol of some tier. -/
theorem mem_localizedSymbols (found : lexicon.counterpart? .toLocalized primary = some localized) :
    localized ∈ lexicon.localizedSymbols := by
  rw [localizedSymbols, List.mem_append, List.mem_append]
  rcases counterpart?_eq_some_iff.1 found with keyword | ⟨-, library | ⟨-, project⟩⟩
  · exact .inl (.inl (Glossary.mem_localizedSymbols keyword))
  · exact .inl (.inr (Glossary.mem_localizedSymbols library))
  · exact .inr (Glossary.mem_localizedSymbols project)

/-- A project clashes with no higher tier exactly when the keywords and the library know none of its
symbols. -/
theorem firstClash_eq_none_iff {σ : Type} [DecidableEq σ] {keywords library project : Glossary σ} :
    firstClash keywords library project = none ↔
      ∀ entry ∈ project.entries, ∀ side, keywords.partner? (entry.symbol side) = none ∧
        library.partner? (entry.symbol side) = none := by
  rw [firstClash, List.findSome?_eq_none_iff]
  refine forall₂_congr fun entry _ => ?_
  simp only [tierClash, sideClash, Option.orElse_eq_orElse, Option.orElse_eq_or,
    Option.or_eq_none_iff, Option.map_eq_none_iff]
  constructor
  · rintro ⟨⟨keywordLocalized, keywordPrimary⟩, libraryLocalized, libraryPrimary⟩ side
    cases side with
    | localized => exact ⟨keywordLocalized, libraryLocalized⟩
    | primary => exact ⟨keywordPrimary, libraryPrimary⟩
  · intro unknown
    have localized := unknown .localized
    have primary := unknown .primary
    exact ⟨⟨localized.1, primary.1⟩, localized.2, primary.2⟩

/-- A symbol of a project entry is unknown to the keywords and to the library. -/
theorem partner?_of_mem_project {entry : Entry} (member : entry ∈ lexicon.project.entries)
    (side : Side) :
    lexicon.keywords.partner? (entry.symbol side) = none ∧
      lexicon.library.partner? (entry.symbol side) = none :=
  firstClash_eq_none_iff.1 lexicon.noClash entry member side

/-- What is found towards the localized side is found back. -/
theorem toPrimary_of_toLocalized
    (apart : ∀ symbol ∈ lexicon.library.localizedSymbols,
      symbol ∉ lexicon.keywords.localizedSymbols)
    (found : lexicon.counterpart? .toLocalized primary = some localized) :
    lexicon.counterpart? .toPrimary localized = some primary := by
  rw [counterpart?_eq_some_iff] at found ⊢
  simp only [Glossary.counterpart?] at found ⊢
  rcases found with keyword | ⟨-, library | ⟨-, project⟩⟩
  · exact .inl (Glossary.primaryOf?_iff_localizedOf?.2 keyword)
  · refine .inr ⟨?_, .inl (Glossary.primaryOf?_iff_localizedOf?.2 library)⟩
    rw [Glossary.primaryOf?_eq_none_iff]
    exact apart localized (Glossary.mem_localizedSymbols library)
  · have member := Glossary.localizedOf?_eq_some_iff.1 project
    obtain ⟨noKeyword, noLibrary⟩ := partner?_of_mem_project member .localized
    rw [Glossary.partner?_eq_none_iff] at noKeyword noLibrary
    refine .inr ⟨?_, .inr ⟨?_, Glossary.primaryOf?_iff_localizedOf?.2 project⟩⟩
    · exact Glossary.primaryOf?_eq_none_iff.2 noKeyword.1
    · exact Glossary.primaryOf?_eq_none_iff.2 noLibrary.1

end Lexicon

namespace Keyword

variable {localized primary word : Text}

theorem isWord_allWords : ∀ word ∈ allWords, isWord word = true := by
  decide +kernel

theorem isWord_of_isKeyword (isKeyword : isKeyword word = true) : isWord word = true :=
  isWord_allWords word (List.contains_iff_mem.1 isKeyword)

theorem isKeyword_of_localized (member : word ∈ glossary.localizedSymbols) :
    isKeyword word = true := by
  have member : word ∈ localizedWords := member
  simp [isKeyword, allWords, member]

theorem isKeyword_of_primary (member : word ∈ glossary.primarySymbols) : isKeyword word = true := by
  have member : word ∈ entries.map Entry.primary := member
  rw [isKeyword, List.contains_iff_mem, allWords]
  exact List.mem_append_right _ member

theorem isWord_of_localizedOf? (found : glossary.localizedOf? primary = some localized) :
    isWord localized = true :=
  isWord_of_isKeyword (isKeyword_of_localized (Glossary.mem_localizedSymbols found))

end Keyword

def Lexicon.nameSymbols (lexicon : Lexicon) : List Text :=
  lexicon.library.localizedSymbols ++ lexicon.library.primarySymbols ++
    lexicon.project.localizedSymbols ++ lexicon.project.primarySymbols

/-- A word that the library and the project do not have is looked up in the keywords alone. -/
theorem Lexicon.counterpart?_of_unnamed {lexicon : Lexicon} {word : Text}
    (unnamed : word ∉ lexicon.nameSymbols) (direction : Direction) :
    lexicon.counterpart? direction word = lexicon.keywords.counterpart? direction word := by
  simp only [nameSymbols, List.mem_append, not_or] at unnamed
  obtain ⟨⟨⟨libraryLocalized, libraryPrimary⟩, projectLocalized⟩, projectPrimary⟩ := unnamed
  have unknown (glossary : Glossary) (noLocalized : word ∉ glossary.localizedSymbols)
      (noPrimary : word ∉ glossary.primarySymbols) :
      glossary.counterpart? direction word = none := by
    cases direction with
    | toPrimary => exact Glossary.primaryOf?_eq_none_iff.2 noLocalized
    | toLocalized => exact Glossary.localizedOf?_eq_none_iff.2 noPrimary
  rw [counterpart?_eq, unknown lexicon.library libraryLocalized libraryPrimary,
    unknown lexicon.project projectLocalized projectPrimary]
  simp

end Diglot
