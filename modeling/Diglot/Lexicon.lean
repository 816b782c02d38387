import Diglot.Keyword
import Diglot.Mode

/-!
# Lexicons

A lexicon is a stack of three glossaries, its tiers: the keywords, the symbols of libraries and the
identifiers of the project. A lookup asks them in this order. No symbol of the project tier occurs
in a higher tier, on either side; the type carries that, so there is no lexicon that breaks it.
-/

set_option autoImplicit false

namespace Diglot

/-- The three tiers, in lookup order. -/
inductive Tier
  | keywords
  | library
  | project
  deriving DecidableEq, Repr

def Tier.name : Tier → String
  | .keywords => "keywords"
  | .library => "library_symbols"
  | .project => "project_identifiers"

def Side.name : Side → String
  | .localized => "localized"
  | .primary => "primary"

/-- A project entry whose symbol on `side` is a symbol of a higher tier, where it is paired with
`other`. -/
structure Clash (σ : Type := Text) where
  tier : Tier
  entry : Entry σ
  side : Side
  other : σ
  deriving DecidableEq, Repr

variable {σ τ : Type}

def Clash.map (f : σ → τ) (clash : Clash σ) : Clash τ :=
  ⟨clash.tier, clash.entry.map f, clash.side, f clash.other⟩

def Clash.raw (clash : Clash) : Clash RawText :=
  clash.map Text.raw

def Clash.message (clash : Clash RawText) : RawText :=
  let said (words : String) : RawText := Text.raw words.toList
  said "project identifier '" ++ clash.entry.localized ++
    said "' <-> '" ++ clash.entry.primary ++
    said s!"' collides with tier '{clash.tier.name}': {clash.side.name} symbol '" ++
    clash.entry.symbol clash.side ++
    said "' is already used there (paired with '" ++ clash.other ++ said "')"

variable [DecidableEq σ] [DecidableEq τ]

namespace Lexicon

def sideClash (tier : Tier) (glossary : Glossary σ) (entry : Entry σ) (side : Side) :
    Option (Clash σ) :=
  (glossary.partner? (entry.symbol side)).map fun other => ⟨tier, entry, side, other⟩

/-- The clash of a project entry with one tier; the localized symbol is tried first. -/
def tierClash (tier : Tier) (glossary : Glossary σ) (entry : Entry σ) : Option (Clash σ) :=
  sideClash tier glossary entry .localized <|> sideClash tier glossary entry .primary

/-- The first clash of the project tier with the keywords and the library, entry by entry. -/
def firstClash (keywords library project : Glossary σ) : Option (Clash σ) :=
  project.entries.findSome? fun entry =>
    tierClash .keywords keywords entry <|> tierClash .library library entry

variable {f : σ → τ} (injective : ∀ a b, f a = f b → a = b)

theorem tierClash_map (tier : Tier) (glossary : Glossary σ) (entry : Entry σ) :
    tierClash tier (glossary.map f injective) (entry.map f) =
      (tierClash tier glossary entry).map (Clash.map f) := by
  have each (side : Side) : sideClash tier (glossary.map f injective) (entry.map f) side =
      (sideClash tier glossary entry side).map (Clash.map f) := by
    have symbol : (entry.map f).symbol side = f (entry.symbol side) := by cases side <;> rfl
    simp [sideClash, symbol, Glossary.partner?_map, Clash.map, Function.comp_def]
  rw [tierClash, tierClash, each, each]
  cases sideClash tier glossary entry .localized <;> rfl

/-- Putting other symbols in place of those of all three glossaries makes and hides no clash. -/
theorem firstClash_map (keywords library project : Glossary σ) :
    firstClash (keywords.map f injective) (library.map f injective) (project.map f injective) =
      (firstClash keywords library project).map (Clash.map f) := by
  have each (entry : Entry σ) :
      (tierClash .keywords (keywords.map f injective) (entry.map f) <|>
          tierClash .library (library.map f injective) (entry.map f)) =
        (tierClash .keywords keywords entry <|> tierClash .library library entry).map
          (Clash.map f) := by
    rw [tierClash_map, tierClash_map]
    cases tierClash .keywords keywords entry <;> rfl
  rw [firstClash, firstClash, List.map_findSome?, Glossary.entries_map, List.findSome?_map]
  exact congrArg (List.findSome? · project.entries) (funext each)

end Lexicon

/-- Three tiers whose project entries clash with no higher tier. -/
structure Lexicon (σ : Type := Text) [DecidableEq σ] where
  keywords : Glossary σ
  library : Glossary σ
  project : Glossary σ
  noClash : Lexicon.firstClash keywords library project = none

namespace Lexicon

def ofTiers (keywords library project : Glossary σ) : Except (Clash σ) (Lexicon σ) :=
  match h : firstClash keywords library project with
  | some clash => .error clash
  | none => .ok ⟨keywords, library, project, h⟩

/-- Keywords and a library, without project names. -/
def ofLibrary (keywords library : Glossary σ) : Lexicon σ :=
  ⟨keywords, library, .empty, rfl⟩

/-- The lexicon of a library without project names: all that going between the localized and the
hybrid mode needs. -/
def forCompilation (library : Glossary) : Lexicon :=
  ofLibrary Keyword.glossary library

/-- The keywords, a library and project names, or the first clash. -/
def forDeveloper (library project : Glossary) : Except Clash Lexicon :=
  ofTiers Keyword.glossary library project

def withProject (lexicon : Lexicon σ) (project : Glossary σ) : Except (Clash σ) (Lexicon σ) :=
  ofTiers lexicon.keywords lexicon.library project

/-- The lexicon with other symbols in place of its own; different symbols stay different. -/
def map (f : σ → τ) (injective : ∀ a b, f a = f b → a = b) (lexicon : Lexicon σ) : Lexicon τ where
  keywords := lexicon.keywords.map f injective
  library := lexicon.library.map f injective
  project := lexicon.project.map f injective
  noClash := by rw [firstClash_map, lexicon.noClash, Option.map_none]

def raw (lexicon : Lexicon) : Lexicon RawText :=
  lexicon.map Text.raw Text.raw_injective

/-- The tiers with their glossaries, in lookup order. -/
def tiers (lexicon : Lexicon σ) : List (Tier × Glossary σ) :=
  [(.keywords, lexicon.keywords), (.library, lexicon.library), (.project, lexicon.project)]

end Lexicon

def Glossary.counterpart? (glossary : Glossary σ) (direction : Direction) (symbol : σ) :
    Option σ :=
  match direction with
  | .toPrimary => glossary.primaryOf? symbol
  | .toLocalized => glossary.localizedOf? symbol

/-- The counterpart of a symbol from the first tier that knows it. -/
def Lexicon.counterpart? (lexicon : Lexicon σ) (direction : Direction) (symbol : σ) : Option σ :=
  lexicon.tiers.findSome? fun (_, glossary) => glossary.counterpart? direction symbol

end Diglot
