import Diglot.Proofs.Lookup
import Mathlib.Data.Prod.Lex

/-!
# The first clash

A project is checked against the keywords and the library: entry by entry, each entry first against
the keywords, and in each tier its localized symbol first. A `Check` is one of these comparisons,
and it fails if the tier has the symbol on either side. A project is refused exactly if some check
fails, and the clash that is named is that of the first check that does, in the order of
`Check.place` (`project_refused_iff`).
-/

set_option autoImplicit false

namespace Diglot

namespace Glossary

variable {glossary : Glossary} {symbol other : Text}

/-- The symbol occurs in the glossary, on either side. -/
def Knows (glossary : Glossary) (symbol : Text) : Prop :=
  symbol ∈ glossary.localizedSymbols ∨ symbol ∈ glossary.primarySymbols

/-- `other` is the primary symbol of `symbol`, or its localized symbol if `symbol` is itself no
localized symbol of the glossary. -/
def Pairs (glossary : Glossary) (symbol other : Text) : Prop :=
  ⟨symbol, other⟩ ∈ glossary.entries ∨
    symbol ∉ glossary.localizedSymbols ∧ ⟨other, symbol⟩ ∈ glossary.entries

theorem partner?_eq_some_iff :
    glossary.partner? symbol = some other ↔ glossary.Pairs symbol other := by
  rw [partner?, Option.orElse_eq_orElse, Option.orElse_eq_or, Option.or_eq_some_iff,
    primaryOf?_eq_some_iff, primaryOf?_eq_none_iff, localizedOf?_eq_some_iff, Pairs]

theorem partner?_eq_none_iff_not_knows :
    glossary.partner? symbol = none ↔ ¬glossary.Knows symbol := by
  rw [partner?_eq_none_iff, Knows, not_or]

theorem Pairs.knows (pairs : glossary.Pairs symbol other) : glossary.Knows symbol := by
  by_contra unknown
  rw [← partner?_eq_none_iff_not_knows, partner?_eq_some_iff.2 pairs] at unknown
  cases unknown

/-- A symbol has only one partner. -/
theorem Pairs.eq {second : Text} (one : glossary.Pairs symbol other)
    (two : glossary.Pairs symbol second) : other = second := by
  rw [← partner?_eq_some_iff] at one two
  exact Option.some.inj (one.symm.trans two)

end Glossary

/-! ## The order of the checks -/

def Tier.rank : Tier → Nat
  | .keywords => 0
  | .library => 1
  | .project => 2

/-- The localized side comes first. -/
def Side.rank : Side → Nat
  | .localized => 0
  | .primary => 1

theorem Tier.rank_injective : Function.Injective Tier.rank := by
  intro a b
  cases a <;> cases b <;> simp [rank]

theorem Side.rank_injective : Function.Injective Side.rank := by
  intro a b
  cases a <;> cases b <;> simp [rank]

/-- The symbol of a project entry, given by its number, is looked for in a tier. -/
structure Check where
  index : Nat
  tier : Tier
  side : Side
  deriving DecidableEq, Repr

namespace Check

/-- By entry, then by tier, then by side. -/
def place (check : Check) : ℕ ×ₗ ℕ ×ₗ ℕ :=
  toLex (check.index, toLex (check.tier.rank, check.side.rank))

theorem place_le_iff {a b : Check} :
    a.place ≤ b.place ↔
      a.index < b.index ∨ a.index = b.index ∧
        (a.tier.rank < b.tier.rank ∨ a.tier.rank = b.tier.rank ∧ a.side.rank ≤ b.side.rank) := by
  rw [place, place, Prod.Lex.toLex_le_toLex, Prod.Lex.toLex_le_toLex]

theorem place_injective : Function.Injective place := by
  rintro ⟨i, s, a⟩ ⟨j, t, b⟩ same
  simp only [place, toLex_inj, Prod.mk.injEq] at same
  obtain ⟨rfl, tiers, sides⟩ := same
  rw [Tier.rank_injective tiers, Side.rank_injective sides]

/-- The tiers that a project is checked against. -/
def higherTier? (keywords library : Glossary) : Tier → Option Glossary
  | .keywords => some keywords
  | .library => some library
  | .project => none

/-- A symbol that a higher tier has is a symbol of the keywords or of the library. -/
theorem knows_of_higherTier? {keywords library : Glossary} {tier : Tier} {symbol : Text}
    (known : ∃ glossary ∈ higherTier? keywords library tier, glossary.Knows symbol) :
    tier = .keywords ∧ keywords.Knows symbol ∨ tier = .library ∧ library.Knows symbol := by
  obtain ⟨glossary, higher, knows⟩ := known
  cases tier with
  | keywords =>
    obtain rfl : keywords = glossary := Option.some.inj higher
    exact .inl ⟨rfl, knows⟩
  | library =>
    obtain rfl : library = glossary := Option.some.inj higher
    exact .inr ⟨rfl, knows⟩
  | project => cases higher

def Fails (check : Check) (keywords library project : Glossary) : Prop :=
  ∃ entry ∈ project.entries[check.index]?,
    ∃ glossary ∈ higherTier? keywords library check.tier, glossary.Knows (entry.symbol check.side)

end Check

/-- The clash that a check finds: the entry with the tier and the side, and the symbol that the tier
pairs with the one that occurs in it. -/
structure Clash.Reports (clash : Clash) (check : Check) (keywords library project : Glossary) :
    Prop where
  entry : project.entries[check.index]? = some clash.entry
  tier : clash.tier = check.tier
  side : clash.side = check.side
  other : ∃ glossary ∈ Check.higherTier? keywords library check.tier,
    glossary.Pairs (clash.entry.symbol check.side) clash.other

/-- The clash of the first check that fails. -/
def Clash.IsFirst (clash : Clash) (keywords library project : Glossary) : Prop :=
  ∃ check, clash.Reports check keywords library project ∧
    ∀ other : Check, other.Fails keywords library project → check.place ≤ other.place

section Clashes

variable {keywords library project glossary : Glossary} {entry : Entry} {clash : Clash}
  {check : Check} {tier : Tier} {side : Side}

theorem Clash.Reports.fails (reports : clash.Reports check keywords library project) :
    check.Fails keywords library project := by
  obtain ⟨glossary, higher, pairs⟩ := reports.other
  exact ⟨clash.entry, reports.entry, glossary, higher, pairs.knows⟩

/-- A check finds one clash only. -/
theorem Clash.Reports.eq {second : Clash} (one : clash.Reports check keywords library project)
    (two : second.Reports check keywords library project) : clash = second := by
  have entries : clash.entry = second.entry := Option.some.inj (one.entry.symm.trans two.entry)
  have others : clash.other = second.other := by
    obtain ⟨glossary, higher, pairs⟩ := one.other
    obtain ⟨same, higher', pairs'⟩ := two.other
    obtain rfl : glossary = same := Option.some.inj (higher.symm.trans higher')
    exact pairs.eq (entries ▸ pairs')
  have tiers := one.tier.trans two.tier.symm
  have sides := one.side.trans two.side.symm
  cases clash
  cases second
  simp_all

theorem Clash.IsFirst.eq {second : Clash} (one : clash.IsFirst keywords library project)
    (two : second.IsFirst keywords library project) : clash = second := by
  obtain ⟨check, reports, least⟩ := one
  obtain ⟨other, reports', least'⟩ := two
  have places := le_antisymm (least other reports'.fails) (least' check reports.fails)
  obtain rfl : check = other := Check.place_injective places
  exact reports.eq reports'

/-! ## One entry -/

namespace Lexicon

theorem sideClash_eq_some_iff :
    sideClash tier glossary entry side = some clash ↔
      clash.tier = tier ∧ clash.entry = entry ∧ clash.side = side ∧
        glossary.Pairs (entry.symbol side) clash.other := by
  rw [sideClash, Option.map_eq_some_iff]
  constructor
  · rintro ⟨other, partner, rfl⟩
    exact ⟨rfl, rfl, rfl, Glossary.partner?_eq_some_iff.1 partner⟩
  · rintro ⟨rfl, rfl, rfl, pairs⟩
    exact ⟨clash.other, Glossary.partner?_eq_some_iff.2 pairs, rfl⟩

theorem sideClash_eq_none_iff :
    sideClash tier glossary entry side = none ↔ ¬glossary.Knows (entry.symbol side) := by
  rw [sideClash, Option.map_eq_none_iff, Glossary.partner?_eq_none_iff_not_knows]

/-- The clash of an entry with a tier is on the primary side only if there is none on the other. -/
theorem tierClash_eq_some_iff :
    tierClash tier glossary entry = some clash ↔
      clash.tier = tier ∧ clash.entry = entry ∧
        glossary.Pairs (entry.symbol clash.side) clash.other ∧
        (clash.side = .primary → ¬glossary.Knows (entry.symbol .localized)) := by
  rw [tierClash, Option.orElse_eq_orElse, Option.orElse_eq_or, Option.or_eq_some_iff,
    sideClash_eq_some_iff, sideClash_eq_some_iff, sideClash_eq_none_iff]
  constructor
  · rintro (⟨rfl, rfl, localized, pairs⟩ | ⟨unknown, rfl, rfl, primary, pairs⟩)
    · exact ⟨rfl, rfl, localized ▸ pairs, by simp [localized]⟩
    · exact ⟨rfl, rfl, primary ▸ pairs, fun _ => unknown⟩
  · rintro ⟨rfl, rfl, pairs, first⟩
    cases side : clash.side with
    | localized => exact .inl ⟨rfl, rfl, rfl, side ▸ pairs⟩
    | primary => exact .inr ⟨first side, rfl, rfl, rfl, side ▸ pairs⟩

theorem tierClash_eq_none_iff :
    tierClash tier glossary entry = none ↔ ∀ side, ¬glossary.Knows (entry.symbol side) := by
  rw [tierClash, Option.orElse_eq_orElse, Option.orElse_eq_or, Option.or_eq_none_iff,
    sideClash_eq_none_iff, sideClash_eq_none_iff]
  constructor
  · rintro ⟨localized, primary⟩ side
    cases side with
    | localized => exact localized
    | primary => exact primary
  · exact fun unknown => ⟨unknown .localized, unknown .primary⟩

/-- The clash of one entry with the higher tiers. -/
def entryClash (keywords library : Glossary) (entry : Entry) : Option Clash :=
  tierClash .keywords keywords entry <|> tierClash .library library entry

theorem entryClash_eq_none_iff :
    entryClash keywords library entry = none ↔
      ∀ side, ¬keywords.Knows (entry.symbol side) ∧ ¬library.Knows (entry.symbol side) := by
  rw [entryClash, Option.orElse_eq_orElse, Option.orElse_eq_or, Option.or_eq_none_iff,
    tierClash_eq_none_iff, tierClash_eq_none_iff, forall_and]

/-- The clash of the entry with number `index` is found by one of its checks, and no check of that
entry before it fails. -/
theorem exists_check_of_entryClash {index : Nat} (here : project.entries[index]? = some entry)
    (found : entryClash keywords library entry = some clash) :
    clash.Reports ⟨index, clash.tier, clash.side⟩ keywords library project ∧
      ∀ tier side, Check.Fails ⟨index, tier, side⟩ keywords library project →
        Check.place ⟨index, clash.tier, clash.side⟩ ≤ Check.place ⟨index, tier, side⟩ := by
  rw [entryClash, Option.orElse_eq_orElse, Option.orElse_eq_or, Option.or_eq_some_iff,
    tierClash_eq_some_iff, tierClash_eq_some_iff, tierClash_eq_none_iff] at found
  have known {tier : Tier} {side : Side}
      (fails : Check.Fails ⟨index, tier, side⟩ keywords library project) :
      tier = .keywords ∧ keywords.Knows (entry.symbol side) ∨
        tier = .library ∧ library.Knows (entry.symbol side) := by
    obtain ⟨other, there, knows⟩ := fails
    obtain rfl : entry = other := Option.some.inj (here.symm.trans there)
    exact Check.knows_of_higherTier? knows
  -- in one tier the localized side comes first
  have sides {glossary : Glossary} {side : Side}
      (first : clash.side = .primary → ¬glossary.Knows (entry.symbol .localized))
      (knows : glossary.Knows (entry.symbol side)) : clash.side.rank ≤ side.rank := by
    cases reported : clash.side with
    | localized => exact Nat.zero_le _
    | primary =>
      cases side with
      | localized => exact absurd knows (first reported)
      | primary => exact le_rfl
  rcases found with ⟨tier, rfl, pairs, first⟩ | ⟨unknown, tier, rfl, pairs, first⟩
  · refine ⟨⟨here, rfl, rfl, keywords, by rw [tier]; rfl, pairs⟩, ?_⟩
    intro otherTier side fails
    rw [Check.place_le_iff, tier]
    refine .inr ⟨rfl, ?_⟩
    rcases known fails with ⟨rfl, knows⟩ | ⟨rfl, -⟩
    · exact .inr ⟨rfl, sides first knows⟩
    · exact .inl Nat.zero_lt_one
  · refine ⟨⟨here, rfl, rfl, library, by rw [tier]; rfl, pairs⟩, ?_⟩
    intro otherTier side fails
    rw [Check.place_le_iff, tier]
    refine .inr ⟨rfl, ?_⟩
    rcases known fails with ⟨-, knows⟩ | ⟨rfl, knows⟩
    · exact absurd knows (unknown side)
    · exact .inr ⟨rfl, sides first knows⟩

/-! ## All entries -/

theorem firstClash_eq_findSome? :
    firstClash keywords library project =
      project.entries.findSome? (entryClash keywords library) := rfl

/-- Some clash is found exactly if a symbol of the project occurs in a higher tier. -/
theorem exists_firstClash_iff :
    (∃ clash, firstClash keywords library project = some clash) ↔
      ∃ entry ∈ project.entries, ∃ side,
        keywords.Knows (entry.symbol side) ∨ library.Knows (entry.symbol side) := by
  rw [← Option.isSome_iff_exists, ← Option.ne_none_iff_isSome, firstClash_eq_findSome?, ne_eq,
    List.findSome?_eq_none_iff]
  simp only [entryClash_eq_none_iff, not_forall, exists_prop, ← not_or, not_not]

/-- What is found is the clash of the first check that fails. -/
theorem isFirst_of_firstClash (found : firstClash keywords library project = some clash) :
    clash.IsFirst keywords library project := by
  rw [firstClash_eq_findSome?, List.findSome?_eq_some_iff] at found
  obtain ⟨before, entry, after, same, found, none⟩ := found
  have here : project.entries[before.length]? = some entry := by
    rw [same, List.getElem?_append_right (Nat.le_refl _), Nat.sub_self, List.getElem?_cons_zero]
  obtain ⟨reports, least⟩ := exists_check_of_entryClash here found
  refine ⟨_, reports, fun other fails => ?_⟩
  rcases Nat.lt_trichotomy other.index before.length with earlier | same_index | later
  · -- the entries before this one have no clash
    obtain ⟨first, there, knows⟩ := fails
    rw [Option.mem_def, same, List.getElem?_append_left earlier] at there
    have unknown := entryClash_eq_none_iff.1 (none first (List.mem_of_getElem? there)) other.side
    rcases Check.knows_of_higherTier? knows with ⟨-, knows⟩ | ⟨-, knows⟩
    · exact absurd knows unknown.1
    · exact absurd knows unknown.2
  · obtain ⟨index, tier, side⟩ := other
    obtain rfl : index = before.length := same_index
    exact least tier side fails
  · exact Check.place_le_iff.2 (.inl later)

theorem firstClash_eq_some_iff :
    firstClash keywords library project = some clash ↔
      clash.IsFirst keywords library project := by
  refine ⟨isFirst_of_firstClash, fun first => ?_⟩
  cases found : firstClash keywords library project with
  | some other => rw [(isFirst_of_firstClash found).eq first]
  | none =>
    obtain ⟨check, reports, -⟩ := first
    obtain ⟨entry, here, knows⟩ := reports.fails
    have known := (Check.knows_of_higherTier? knows).imp And.right And.right
    have clashes := exists_firstClash_iff.2 ⟨entry, List.mem_of_getElem? here, check.side, known⟩
    simp [found] at clashes

theorem ofTiers_eq_error_iff :
    ofTiers keywords library project = .error clash ↔
      firstClash keywords library project = some clash := by
  unfold ofTiers
  split
  · next other found => rw [found, Except.error.injEq, Option.some.injEq]
  · next none => simp [none]

end Lexicon

end Clashes

/-- A project has a clash exactly if one of its symbols occurs in a higher tier, on either side; the
clash that is found is that of the first check that fails, and a lexicon is refused with it. -/
theorem project_refused_iff (keywords library project : Glossary) :
    ((∃ clash, Lexicon.firstClash keywords library project = some clash) ↔
      ∃ entry ∈ project.entries, ∃ side,
        keywords.Knows (entry.symbol side) ∨ library.Knows (entry.symbol side)) ∧
    (∀ clash, Lexicon.firstClash keywords library project = some clash ↔
      clash.IsFirst keywords library project) ∧
    ∀ clash, Lexicon.ofTiers keywords library project = .error clash ↔
      Lexicon.firstClash keywords library project = some clash :=
  ⟨Lexicon.exists_firstClash_iff, fun _ => Lexicon.firstClash_eq_some_iff,
    fun _ => Lexicon.ofTiers_eq_error_iff⟩

/-- The second entry has two symbols of the library, but one of them is a keyword before. -/
example :
    let keywords : Glossary := ⟨[⟨['k'], ['i', 'f']⟩], by decide, by decide⟩
    let library : Glossary := ⟨[⟨['a'], ['k']⟩, ⟨['x'], ['y']⟩], by decide, by decide⟩
    let project : Glossary := ⟨[⟨['p'], ['q']⟩, ⟨['y'], ['k']⟩], by decide, by decide⟩
    Lexicon.firstClash keywords library project =
      some ⟨.keywords, ⟨['y'], ['k']⟩, .primary, ['i', 'f']⟩ := by
  decide

end Diglot
