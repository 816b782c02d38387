import Diglot.Proofs.Lookup
import Diglot.Table

/-!
# Glossaries kept as two tables

A glossary can be kept for fast lookups in both directions: one table from localized to primary
symbols and one back. Entering a pair writes both tables, and a merge lays each table of the
incoming glossary over the one of the base, without looking at single pairs again. Nothing in such
a pair of tables says that they agree; they do because every operation first asks for conflicts.

The operations on two tables are those on entries (`Recipe.tables?_eq`), so that all the tables that
can be made from entries by building and merging are inverse to each other and list their symbols
in one order (`made_tables_agree`).
-/

set_option autoImplicit false

namespace Diglot

/-! ## A table in each direction -/

/-- The primary symbols by the localized ones, and the localized symbols by the primary ones. -/
structure TwoTables where
  forward : Table Text
  reverse : Table Text
  deriving DecidableEq, Repr

namespace TwoTables

def empty : TwoTables := ⟨[], []⟩

def conflictWith (tables : TwoTables) (entry : Entry) : Option Conflict :=
  match tables.forward.value? entry.localized with
  | some primary => some ⟨.localized, entry, ⟨entry.localized, primary⟩⟩
  | none =>
    match tables.reverse.value? entry.primary with
    | some localized => some ⟨.primary, entry, ⟨localized, entry.primary⟩⟩
    | none => none

def set (tables : TwoTables) (entry : Entry) : TwoTables :=
  ⟨tables.forward.set entry.localized entry.primary,
    tables.reverse.set entry.primary entry.localized⟩

def firstConflict (tables : TwoTables) : List Entry → Option Conflict
  | [] => none
  | entry :: entries =>
    match tables.conflictWith entry with
    | some conflict => some conflict
    | none => firstConflict (tables.set entry) entries

def enterAll (tables : TwoTables) : List Entry → Except Conflict TwoTables
  | [] => .ok tables
  | entry :: entries =>
    match tables.conflictWith entry with
    | some conflict => .error conflict
    | none => enterAll (tables.set entry) entries

def ofEntries (entries : List Entry) : Except Conflict TwoTables :=
  empty.enterAll entries

/-- The tables of entries that were tested for conflicts before. -/
def ofEntries? (entries : List Entry) : Option TwoTables :=
  match empty.firstConflict entries with
  | some _ => none
  | none => (ofEntries entries).toOption

/-- Lays the incoming tables over the others, if no incoming pair has a conflict with these. -/
def merge (tables incoming : TwoTables) : Except Conflict TwoTables :=
  match incoming.forward.findSome? fun (localized, primary) =>
      tables.conflictWith ⟨localized, primary⟩ with
  | some conflict => .error conflict
  | none => .ok ⟨tables.forward.overlay incoming.forward, tables.reverse.overlay incoming.reverse⟩

/-- The tables are inverse to each other and list their symbols in one order, each of them once. -/
structure Agree (tables : TwoTables) : Prop where
  inverse : ∀ localized primary, tables.forward.value? localized = some primary ↔
    tables.reverse.value? primary = some localized
  length_eq : tables.forward.length = tables.reverse.length
  zip_keys : tables.forward.keys.zip tables.reverse.keys = tables.forward
  forward_nodup : tables.forward.keys.Nodup
  reverse_nodup : tables.reverse.keys.Nodup

end TwoTables

/-! ## The tables of a glossary -/

namespace Glossary

variable {glossary incoming : Glossary} {entry : Entry} {symbol : Text}

def tables (glossary : Glossary) : TwoTables :=
  ⟨glossary.entries.map fun entry => (entry.localized, entry.primary),
    glossary.entries.map fun entry => (entry.primary, entry.localized)⟩

@[simp] theorem keys_forward : glossary.tables.forward.keys = glossary.localizedSymbols := by
  simp [tables, Table.keys, localizedSymbols]

@[simp] theorem keys_reverse : glossary.tables.reverse.keys = glossary.primarySymbols := by
  simp [tables, Table.keys, primarySymbols]

@[simp] theorem value?_forward :
    glossary.tables.forward.value? symbol = glossary.primaryOf? symbol := by
  simp only [tables, Table.value?, primaryOf?, List.find?_map, Option.map_map]
  rfl

@[simp] theorem value?_reverse :
    glossary.tables.reverse.value? symbol = glossary.localizedOf? symbol := by
  simp only [tables, Table.value?, localizedOf?, List.find?_map, Option.map_map]
  rfl

/-- The tables see the conflicts that the entries show. -/
theorem conflictWith_tables (glossary : Glossary) (entry : Entry) :
    glossary.tables.conflictWith entry = conflictWith glossary.entries entry := by
  unfold TwoTables.conflictWith conflictWith
  rw [value?_forward, value?_reverse, primaryOf?, localizedOf?]
  cases known : glossary.entries.find? (·.localized = entry.localized) with
  | some existing =>
    have same : existing.localized = entry.localized := by simpa using List.find?_some known
    simp [← same]
  | none =>
    cases known : glossary.entries.find? (·.primary = entry.primary) with
    | some existing =>
      have same : existing.primary = entry.primary := by simpa using List.find?_some known
      simp [← same]
    | none => rfl

/-- One step: a pair is entered in the tables as it is in the glossary. -/
theorem tables_add {larger : Glossary} (added : glossary.add entry = .ok larger) :
    larger.tables = glossary.tables.set entry := by
  have free : conflictWith glossary.entries entry = none :=
    conflictWith_of_append (entries_add added)
  obtain ⟨newLocalized, newPrimary⟩ := conflictWith_eq_none_iff.1 free
  unfold TwoTables.set
  rw [Table.set_of_fresh (by rwa [keys_forward]), Table.set_of_fresh (by rwa [keys_reverse])]
  simp [tables, entries_add added]

theorem add_of_conflict {conflict : Conflict}
    (found : conflictWith glossary.entries entry = some conflict) :
    glossary.add entry = .error conflict := by
  rw [add]
  split
  · next other found' =>
    rw [found, Option.some.injEq] at found'
    rw [found']
  · next free => simp [found] at free

theorem merge_of_conflict {conflict : Conflict}
    (found : glossary.mergeConflict incoming = some conflict) :
    glossary.merge incoming = .error conflict := by
  rw [merge]
  split
  · next other found' =>
    rw [found, Option.some.injEq] at found'
    rw [found']
  · next free => simp [found] at free

/-- A run: entering pairs one after another, down to the conflict that stops it. -/
theorem enterAll_tables (glossary : Glossary) (entries : List Entry) :
    glossary.tables.enterAll entries = (glossary.addAll entries).map tables := by
  induction entries generalizing glossary with
  | nil => rfl
  | cons entry entries ih =>
    rw [TwoTables.enterAll, addAll, conflictWith_tables]
    cases found : conflictWith glossary.entries entry with
    | some conflict => rw [add_of_conflict found]; rfl
    | none =>
      obtain ⟨larger, added⟩ := exists_add found
      dsimp only
      rw [added, ← tables_add added, ih larger]

/-- Laying the tables over one another puts the entries after one another. -/
theorem merge_tables (glossary incoming : Glossary) :
    glossary.tables.merge incoming.tables = (glossary.merge incoming).map tables := by
  have asked : (incoming.tables.forward.findSome? fun (localized, primary) =>
      glossary.tables.conflictWith ⟨localized, primary⟩) = glossary.mergeConflict incoming := by
    unfold mergeConflict tables
    rw [List.findSome?_map]
    exact congrArg (incoming.entries.findSome? ·) (funext fun entry => conflictWith_tables _ entry)
  unfold TwoTables.merge
  rw [asked]
  cases found : glossary.mergeConflict incoming with
  | some conflict => rw [merge_of_conflict found]; rfl
  | none =>
    obtain ⟨localized, primary⟩ := nodup_append_of_mergeConflict found
    have merged : glossary.merge incoming = .ok ⟨_, localized, primary⟩ :=
      merge_eq_ok_iff.2 ⟨List.findSome?_eq_none_iff.1 found, rfl⟩
    rw [List.map_append] at localized primary
    dsimp only
    rw [merged, Table.overlay_of_nodup (by rwa [Table.keys_append, keys_forward, keys_forward]),
      Table.overlay_of_nodup (by rwa [Table.keys_append, keys_reverse, keys_reverse])]
    simp [Except.map, tables]

/-- The tables of a glossary agree. -/
theorem agree_tables (glossary : Glossary) : glossary.tables.Agree where
  inverse localized primary := by
    rw [value?_forward, value?_reverse]
    exact primaryOf?_iff_localizedOf?
  length_eq := by simp [tables]
  zip_keys := by
    rw [keys_forward, keys_reverse, localizedSymbols, primarySymbols, List.zip_map', tables]
  forward_nodup := by
    rw [keys_forward]
    exact glossary.localized_nodup
  reverse_nodup := by
    rw [keys_reverse]
    exact glossary.primary_nodup

end Glossary

/-- Entering fails with the conflict that a test finds before. -/
theorem TwoTables.enterAll_of_firstConflict {tables : TwoTables} {entries : List Entry}
    {conflict : Conflict} (found : tables.firstConflict entries = some conflict) :
    tables.enterAll entries = .error conflict := by
  induction entries generalizing tables with
  | nil => simp [firstConflict] at found
  | cons entry entries ih =>
    rw [firstConflict] at found
    rw [enterAll]
    cases here : tables.conflictWith entry with
    | some other =>
      rw [here, Option.some.injEq] at found
      rw [found]
    | none =>
      rw [here] at found
      exact ih found

/-! ## Everything that can be made -/

/-- A way to make a glossary: from entries, from entries that are tested first, or from two
glossaries that are merged. -/
inductive Recipe
  | strict (entries : List Entry)
  | safe (entries : List Entry)
  | merge (base incoming : Recipe)
  deriving Repr

namespace Recipe

/-- The glossary that a recipe makes, unless some step of it fails. -/
def glossary? : Recipe → Option Glossary
  | strict entries => (Glossary.ofEntries entries).toOption
  | safe entries => Glossary.ofEntries? entries
  | merge base incoming => do ((← base.glossary?).merge (← incoming.glossary?)).toOption

/-- The tables that a recipe makes, unless some step of it fails. -/
def tables? : Recipe → Option TwoTables
  | strict entries => (TwoTables.ofEntries entries).toOption
  | safe entries => TwoTables.ofEntries? entries
  | merge base incoming => do ((← base.tables?).merge (← incoming.tables?)).toOption

theorem toOption_ofEntries (entries : List Entry) :
    (TwoTables.ofEntries entries).toOption =
      (Glossary.ofEntries entries).toOption.map Glossary.tables := by
  have run := Glossary.enterAll_tables .empty entries
  unfold TwoTables.ofEntries Glossary.ofEntries
  change TwoTables.empty.enterAll entries = _ at run
  rw [run]
  cases Glossary.empty.addAll entries <;> rfl

/-- The test before `ofEntries` changes nothing. -/
theorem ofEntries?_eq (entries : List Entry) :
    TwoTables.ofEntries? entries = (TwoTables.ofEntries entries).toOption := by
  unfold TwoTables.ofEntries?
  split
  · next conflict found =>
    rw [TwoTables.ofEntries, TwoTables.enterAll_of_firstConflict found]
    rfl
  · rfl

/-- Two tables make of a recipe what a list of entries makes of it. -/
theorem tables?_eq (recipe : Recipe) : recipe.tables? = recipe.glossary?.map Glossary.tables := by
  induction recipe with
  | strict entries => exact toOption_ofEntries entries
  | safe entries => rw [tables?, glossary?, ofEntries?_eq, toOption_ofEntries, Glossary.ofEntries?]
  | merge base incoming ihBase ihIncoming =>
    rw [tables?, glossary?, ihBase, ihIncoming]
    cases base.glossary? with
    | none => rfl
    | some glossary =>
      cases incoming.glossary? with
      | none => rfl
      | some other =>
        change (glossary.tables.merge other.tables).toOption =
          (glossary.merge other).toOption.map Glossary.tables
        rw [Glossary.merge_tables]
        cases glossary.merge other <;> rfl

end Recipe

/-- All tables that can be made agree with each other, and with the glossary that is made in the
same way: in every lookup, in the symbols of both sides and in the pairs. -/
theorem made_tables_agree (recipe : Recipe) (tables : TwoTables)
    (made : recipe.tables? = some tables) :
    tables.Agree ∧ ∃ glossary, recipe.glossary? = some glossary ∧
      (∀ symbol, tables.forward.value? symbol = glossary.primaryOf? symbol) ∧
      (∀ symbol, tables.reverse.value? symbol = glossary.localizedOf? symbol) ∧
      tables.forward.keys = glossary.localizedSymbols ∧
      tables.reverse.keys = glossary.primarySymbols ∧
      tables.forward = glossary.entries.map fun entry => (entry.localized, entry.primary) := by
  rw [Recipe.tables?_eq] at made
  obtain ⟨glossary, makes, rfl⟩ := Option.map_eq_some_iff.1 made
  refine ⟨glossary.agree_tables, glossary, makes, ?_, ?_, ?_, ?_, rfl⟩
  · intro symbol
    exact Glossary.value?_forward
  · intro symbol
    exact Glossary.value?_reverse
  · exact Glossary.keys_forward
  · exact Glossary.keys_reverse

/-- Two entries, one that is tested first, and one more that is merged into it before. The primary
symbol of the first entry is the localized one of the last. -/
def mixedRecipe : Recipe :=
  .merge (.strict [⟨['א', 'ו', 'י', 'ב'], ['i', 'f']⟩, ⟨['ד', 'ר', 'ו', 'ק'], ['p', 'u', 't']⟩])
    (.merge (.safe [⟨['נ', 'א', 'מ', 'ע', 'ן'], ['n', 'a', 'm', 'e']⟩])
      (.strict [⟨['i', 'f'], []⟩]))

def mixedTables : TwoTables where
  forward := [(['א', 'ו', 'י', 'ב'], ['i', 'f']), (['ד', 'ר', 'ו', 'ק'], ['p', 'u', 't']),
    (['נ', 'א', 'מ', 'ע', 'ן'], ['n', 'a', 'm', 'e']), (['i', 'f'], [])]
  reverse := [(['i', 'f'], ['א', 'ו', 'י', 'ב']), (['p', 'u', 't'], ['ד', 'ר', 'ו', 'ק']),
    (['n', 'a', 'm', 'e'], ['נ', 'א', 'מ', 'ע', 'ן']), ([], ['i', 'f'])]

/-- The tables of a recipe of all three kinds agree. -/
theorem made_tables_agree_mixed : mixedRecipe.tables? = some mixedTables ∧ mixedTables.Agree :=
  ⟨by decide, (made_tables_agree mixedRecipe mixedTables (by decide)).1⟩

end Diglot
