import Diglot.Proofs.TwoTables

/-!
# The first conflict

A symbol that is entered twice is looked for in three places. `firstConflict` only looks,
`ofEntries` looks while it enters pair after pair, and `merge` compares each incoming pair with the
base alone, since the incoming pairs have no conflict among themselves. All of them stop at the same
conflict, that of the first pair that repeats a symbol (`conflict_checks_agree`). Merging is
therefore putting entries after one another, under one condition that depends neither on the order
nor on the grouping of the glossaries.
-/

set_option autoImplicit false

namespace Diglot

open Glossary (conflictWith conflictWith_eq_none_iff firstConflict firstConflictAfter)

section Entries

variable {earlier entries : List Entry} {entry : Entry} {conflict : Conflict}

/-! ## Entries without conflict -/

/-- No symbol is entered twice on its side. -/
def OneToOne (entries : List Entry) : Prop :=
  (entries.map Entry.localized).Nodup ∧ (entries.map Entry.primary).Nodup

instance (entries : List Entry) : Decidable (OneToOne entries) :=
  inferInstanceAs (Decidable (_ ∧ _))

theorem Glossary.oneToOne (glossary : Glossary) : OneToOne glossary.entries :=
  ⟨glossary.localized_nodup, glossary.primary_nodup⟩

theorem OneToOne.of_append {later : List Entry} (unique : OneToOne (earlier ++ later)) :
    OneToOne earlier := by
  unfold OneToOne at unique ⊢
  rw [List.map_append, List.map_append] at unique
  exact ⟨(List.nodup_append.1 unique.1).1, (List.nodup_append.1 unique.2).1⟩

/-- One more entry: its symbols have to be new. -/
theorem oneToOne_concat_iff :
    OneToOne (earlier ++ [entry]) ↔ OneToOne earlier ∧ conflictWith earlier entry = none := by
  unfold OneToOne
  rw [conflictWith_eq_none_iff, List.map_append, List.map_append, List.map_singleton,
    List.map_singleton, ← List.concat_eq_append, ← List.concat_eq_append, List.nodup_concat,
    List.nodup_concat]
  tauto

/-- Among entries that are one to one, each is new to those before it. -/
theorem OneToOne.conflictWith_eq_none {later : List Entry}
    (unique : OneToOne (earlier ++ entry :: later)) : conflictWith earlier entry = none := by
  rw [List.append_cons] at unique
  exact (oneToOne_concat_iff.1 unique.of_append).2

/-- Entries are one to one in whatever order they stand. -/
theorem OneToOne.swap {a b : List Entry} (unique : OneToOne (a ++ b)) : OneToOne (b ++ a) := by
  have permuted : (a ++ b).Perm (b ++ a) := List.perm_append_comm
  exact ⟨(permuted.map _).nodup_iff.1 unique.1, (permuted.map _).nodup_iff.1 unique.2⟩

/-! ## Where a conflict is found -/

/-- The conflict's entry repeats a symbol of an earlier entry, and a primary one only if its
localized symbol is new. -/
structure Conflict.Repeats (conflict : Conflict) (earlier : List Entry) : Prop where
  existing_mem : conflict.existing ∈ earlier
  same_symbol : conflict.existing.symbol conflict.side = conflict.entry.symbol conflict.side
  localized_new : conflict.side = .primary →
    conflict.entry.localized ∉ earlier.map Entry.localized

/-- The conflict of the first entry that has one: all entries before it are one to one. -/
def Conflict.IsFirstOf (conflict : Conflict) (entries : List Entry) : Prop :=
  ∃ earlier later, entries = earlier ++ conflict.entry :: later ∧ OneToOne earlier ∧
    conflict.Repeats earlier

theorem find?_symbol_eq_none_iff {side : Entry → Text} {symbol : Text} :
    entries.find? (side · = symbol) = none ↔ symbol ∉ entries.map side := by
  simp

/-- Among entries that are one to one, the entry that is repeated is the only one. -/
theorem conflictWith_eq_some_iff (unique : OneToOne earlier) :
    conflictWith earlier entry = some conflict ↔
      conflict.entry = entry ∧ conflict.Repeats earlier := by
  obtain ⟨side, repeating, existing⟩ := conflict
  have onLocalized : earlier.find? (·.localized = entry.localized) = some existing ↔
      existing ∈ earlier ∧ existing.localized = entry.localized :=
    Glossary.find?_eq_some_iff unique.1
  have onPrimary : earlier.find? (·.primary = entry.primary) = some existing ↔
      existing ∈ earlier ∧ existing.primary = entry.primary :=
    Glossary.find?_eq_some_iff unique.2
  unfold conflictWith
  constructor
  · intro found
    split at found
    · next other known =>
      obtain ⟨rfl, rfl, rfl⟩ : Side.localized = side ∧ entry = repeating ∧ other = existing := by
        simpa using found
      obtain ⟨member, same⟩ := onLocalized.1 known
      exact ⟨rfl, member, same, by simp⟩
    · next unknown =>
      split at found
      · next other known =>
        obtain ⟨rfl, rfl, rfl⟩ : Side.primary = side ∧ entry = repeating ∧ other = existing := by
          simpa using found
        obtain ⟨member, same⟩ := onPrimary.1 known
        exact ⟨rfl, member, same, fun _ => find?_symbol_eq_none_iff.1 unknown⟩
      · cases found
  · rintro ⟨rfl, member, same, localizedNew⟩
    cases side with
    | localized => rw [onLocalized.2 ⟨member, same⟩]
    | primary =>
      have unknown : earlier.find? (·.localized = repeating.localized) = none :=
        find?_symbol_eq_none_iff.2 (localizedNew rfl)
      rw [unknown, onPrimary.2 ⟨member, same⟩]

theorem firstConflictAfter_append (earlier front back : List Entry) :
    firstConflictAfter earlier (front ++ back) =
      (firstConflictAfter earlier front).or (firstConflictAfter (earlier ++ front) back) := by
  induction front generalizing earlier with
  | nil => rw [List.nil_append, List.append_nil, firstConflictAfter, Option.none_or]
  | cons entry front ih =>
    rw [List.cons_append, firstConflictAfter, firstConflictAfter]
    cases conflictWith earlier entry with
    | some conflict => rfl
    | none => simp only [ih, List.append_assoc, List.singleton_append]

/-- No conflict is found exactly in entries that are one to one. -/
theorem firstConflictAfter_eq_none_iff (unique : OneToOne earlier) :
    firstConflictAfter earlier entries = none ↔ OneToOne (earlier ++ entries) := by
  induction entries generalizing earlier with
  | nil => simp [firstConflictAfter, unique]
  | cons entry entries ih =>
    rw [firstConflictAfter]
    cases found : conflictWith earlier entry with
    | some conflict =>
      simp only [reduceCtorEq, false_iff]
      intro all
      simp [all.conflictWith_eq_none] at found
    | none =>
      rw [List.append_cons earlier entry entries]
      exact ih (oneToOne_concat_iff.2 ⟨unique, found⟩)

/-- A conflict that is found is that of an entry whose predecessors are one to one. -/
theorem exists_of_firstConflictAfter (unique : OneToOne earlier)
    (found : firstConflictAfter earlier entries = some conflict) :
    ∃ front back, entries = front ++ conflict.entry :: back ∧ OneToOne (earlier ++ front) ∧
      conflict.Repeats (earlier ++ front) := by
  induction entries generalizing earlier with
  | nil => simp [firstConflictAfter] at found
  | cons entry entries ih =>
    rw [firstConflictAfter] at found
    cases here : conflictWith earlier entry with
    | some other =>
      rw [here, Option.some.injEq] at found
      subst found
      obtain ⟨same, again⟩ := (conflictWith_eq_some_iff unique).1 here
      rw [← List.append_nil earlier] at unique again
      exact ⟨[], entries, by rw [same, List.nil_append], unique, again⟩
    | none =>
      rw [here] at found
      obtain ⟨front, back, rfl, uniqueFront, again⟩ :=
        ih (oneToOne_concat_iff.2 ⟨unique, here⟩) found
      rw [← List.append_cons] at uniqueFront again
      exact ⟨entry :: front, back, rfl, uniqueFront, again⟩

/-- The conflict of an entry whose predecessors are one to one is found before all others. -/
theorem firstConflictAfter_of_repeats {front back : List Entry}
    (uniqueFront : OneToOne (earlier ++ front)) (again : conflict.Repeats (earlier ++ front)) :
    firstConflictAfter earlier (front ++ conflict.entry :: back) = some conflict := by
  have free : firstConflictAfter earlier front = none :=
    (firstConflictAfter_eq_none_iff uniqueFront.of_append).2 uniqueFront
  have here : conflictWith (earlier ++ front) conflict.entry = some conflict :=
    (conflictWith_eq_some_iff uniqueFront).2 ⟨rfl, again⟩
  rw [firstConflictAfter_append, free, Option.none_or, firstConflictAfter, here]

theorem firstConflict_eq_none_iff : firstConflict entries = none ↔ OneToOne entries := by
  have nothing : OneToOne [] := by decide
  rw [firstConflict, firstConflictAfter_eq_none_iff nothing, List.nil_append]

theorem firstConflict_eq_some_iff :
    firstConflict entries = some conflict ↔ conflict.IsFirstOf entries := by
  have nothing : OneToOne [] := by decide
  constructor
  · intro found
    exact exists_of_firstConflictAfter nothing found
  · rintro ⟨front, back, rfl, uniqueFront, again⟩
    rw [← List.nil_append front] at uniqueFront again
    exact firstConflictAfter_of_repeats uniqueFront again

/-- The first entry in conflict is named, also where a later one repeats a localized symbol. -/
example : firstConflict [⟨['a'], ['x']⟩, ⟨['b'], ['x']⟩, ⟨['a'], ['y']⟩] =
    some ⟨.primary, ⟨['b'], ['x']⟩, ⟨['a'], ['x']⟩⟩ := by
  decide

/-! ## Building and merging -/

/-- The entries themselves, or their first conflict. -/
def checked (entries : List Entry) : Except Conflict (List Entry) :=
  match firstConflict entries with
  | some conflict => .error conflict
  | none => .ok entries

theorem checked_of_oneToOne (unique : OneToOne entries) : checked entries = .ok entries := by
  rw [checked, firstConflict_eq_none_iff.2 unique]

theorem checked_of_firstConflict (found : firstConflict entries = some conflict) :
    checked entries = .error conflict := by
  rw [checked, found]

namespace Glossary

variable {glossary incoming : Glossary}

/-- Entries that come one after another are checked against all before them. -/
theorem addAll_of_conflict (found : firstConflictAfter glossary.entries entries = some conflict) :
    glossary.addAll entries = .error conflict := by
  induction entries generalizing glossary with
  | nil => simp [firstConflictAfter] at found
  | cons entry entries ih =>
    rw [firstConflictAfter] at found
    rw [addAll]
    cases here : conflictWith glossary.entries entry with
    | some other =>
      rw [here, Option.some.injEq] at found
      rw [add_of_conflict here, found]
    | none =>
      obtain ⟨larger, added⟩ := exists_add here
      rw [here, ← entries_add added] at found
      rw [added]
      exact ih found

theorem entries_addAll (glossary : Glossary) (entries : List Entry) :
    (glossary.addAll entries).map Glossary.entries = checked (glossary.entries ++ entries) := by
  have split := firstConflictAfter_append [] glossary.entries entries
  have free : firstConflictAfter [] glossary.entries = none :=
    firstConflict_eq_none_iff.2 glossary.oneToOne
  rw [free, Option.none_or, List.nil_append] at split
  cases found : firstConflictAfter glossary.entries entries with
  | some conflict =>
    rw [addAll_of_conflict found, checked_of_firstConflict (split.trans found)]
    rfl
  | none =>
    have unique := (firstConflictAfter_eq_none_iff glossary.oneToOne).1 found
    rw [addAll_eq_ok_iff.2 (show (⟨_, unique.1, unique.2⟩ : Glossary).entries = _ from rfl),
      checked_of_oneToOne unique]
    rfl

theorem entries_ofEntries (entries : List Entry) :
    (ofEntries entries).map Glossary.entries = checked entries :=
  entries_addAll empty entries

/-- An entry that is new to some of the entries before it has its conflict with the others. -/
theorem conflictWith_append {seen : List Entry} (new : conflictWith seen entry = none) :
    conflictWith (earlier ++ seen) entry = conflictWith earlier entry := by
  have localizedNew : seen.find? (·.localized = entry.localized) = none :=
    find?_symbol_eq_none_iff.2 (conflictWith_eq_none_iff.1 new).1
  have primaryNew : seen.find? (·.primary = entry.primary) = none :=
    find?_symbol_eq_none_iff.2 (conflictWith_eq_none_iff.1 new).2
  simp only [conflictWith, List.find?_append, localizedNew, primaryNew, Option.or_none]

/-- Entries that are one to one conflict with earlier ones, if at all, each on its own. -/
theorem firstConflictAfter_eq_findSome? {seen : List Entry} (unique : OneToOne (seen ++ entries)) :
    firstConflictAfter (earlier ++ seen) entries = entries.findSome? (conflictWith earlier) := by
  induction entries generalizing seen with
  | nil => rfl
  | cons entry entries ih =>
    rw [firstConflictAfter, List.findSome?_cons, conflictWith_append unique.conflictWith_eq_none]
    cases conflictWith earlier entry with
    | some conflict => rfl
    | none =>
      rw [List.append_cons] at unique
      dsimp only
      rw [List.append_assoc, ih unique]

/-- The base alone shows the first conflict of a merge. -/
theorem mergeConflict_eq (glossary incoming : Glossary) :
    glossary.mergeConflict incoming = firstConflict (glossary.entries ++ incoming.entries) := by
  have free : firstConflictAfter [] glossary.entries = none :=
    firstConflict_eq_none_iff.2 glossary.oneToOne
  have each : firstConflictAfter (glossary.entries ++ []) incoming.entries =
      incoming.entries.findSome? (conflictWith glossary.entries) :=
    firstConflictAfter_eq_findSome? incoming.oneToOne
  rw [firstConflict, firstConflictAfter_append, free, Option.none_or, List.nil_append,
    mergeConflict, ← each, List.append_nil]

/-- A merge puts the entries after one another, or names their first conflict. -/
theorem entries_merge (glossary incoming : Glossary) :
    (glossary.merge incoming).map Glossary.entries =
      checked (glossary.entries ++ incoming.entries) := by
  have same := mergeConflict_eq glossary incoming
  cases found : glossary.mergeConflict incoming with
  | some conflict =>
    rw [merge_of_conflict found, checked_of_firstConflict (same.symm.trans found)]
    rfl
  | none =>
    have unique := firstConflict_eq_none_iff.1 (same.symm.trans found)
    have merged : glossary.merge incoming = .ok ⟨_, unique.1, unique.2⟩ :=
      merge_eq_ok_iff.2 ⟨List.findSome?_eq_none_iff.1 found, rfl⟩
    rw [merged, checked_of_oneToOne unique]
    rfl

/-! ## The same with two tables -/

/-- Looking alone, two tables find what a list of entries shows. -/
theorem firstConflict_tables (glossary : Glossary) (entries : List Entry) :
    glossary.tables.firstConflict entries = firstConflictAfter glossary.entries entries := by
  induction entries generalizing glossary with
  | nil => rfl
  | cons entry entries ih =>
    rw [TwoTables.firstConflict, firstConflictAfter, conflictWith_tables]
    cases found : conflictWith glossary.entries entry with
    | some conflict => rfl
    | none =>
      obtain ⟨larger, added⟩ := exists_add found
      dsimp only
      rw [← tables_add added, ih larger, entries_add added]

end Glossary

end Entries

/-- The pairs that two tables hold, in the order of the first. -/
def TwoTables.entries (tables : TwoTables) : List Entry :=
  tables.forward.map fun (localized, primary) => ⟨localized, primary⟩

@[simp] theorem Glossary.entries_tables (glossary : Glossary) :
    glossary.tables.entries = glossary.entries := by
  unfold TwoTables.entries tables
  rw [List.map_map]
  exact List.map_id _

theorem TwoTables.entries_map_tables (outcome : Except Conflict Glossary) :
    (outcome.map Glossary.tables).map entries = outcome.map Glossary.entries := by
  cases outcome with
  | error conflict => rfl
  | ok glossary => exact congrArg Except.ok glossary.entries_tables

theorem TwoTables.entries_ofEntries (pairs : List Entry) :
    (ofEntries pairs).map entries = checked pairs := by
  have run : ofEntries pairs = (Glossary.ofEntries pairs).map Glossary.tables :=
    Glossary.enterAll_tables .empty pairs
  rw [run, entries_map_tables, Glossary.entries_ofEntries]

theorem TwoTables.entries_merge (a b : Glossary) :
    (a.tables.merge b.tables).map entries = checked (a.entries ++ b.entries) := by
  rw [Glossary.merge_tables, entries_map_tables, Glossary.entries_merge]

/-! ## The order and the grouping of merges -/

namespace Glossary

variable {a b c : Glossary}

/-- Whether both outcomes are glossaries that are alike, or both are failures. -/
def alikeOutcomes : Except Conflict Glossary → Except Conflict Glossary → Bool
  | .ok a, .ok b => a.alike b
  | .error _, .error _ => true
  | .ok _, .error _ | .error _, .ok _ => false

/-- A glossary is merged from two others exactly if it has their entries after one another. -/
theorem merge_eq_ok_iff_entries {merged : Glossary} :
    a.merge b = .ok merged ↔ merged.entries = a.entries ++ b.entries := by
  rw [merge_eq_ok_iff, and_iff_right_iff_imp]
  intro same
  have unique : OneToOne (a.entries ++ b.entries) := same ▸ merged.oneToOne
  have free := (mergeConflict_eq a b).trans (firstConflict_eq_none_iff.2 unique)
  exact List.findSome?_eq_none_iff.1 free

theorem exists_merge_iff :
    (∃ merged, a.merge b = .ok merged) ↔ OneToOne (a.entries ++ b.entries) := by
  constructor
  · rintro ⟨merged, made⟩
    exact merge_eq_ok_iff_entries.1 made ▸ merged.oneToOne
  · intro unique
    exact ⟨⟨_, unique.1, unique.2⟩, merge_eq_ok_iff_entries.2 rfl⟩

/-- A merge has the same outcome in either order, up to the order of the entries. -/
theorem alikeOutcomes_merge (a b : Glossary) :
    alikeOutcomes (a.merge b) (b.merge a) = true := by
  have either : (∃ merged, a.merge b = .ok merged) ↔ ∃ merged, b.merge a = .ok merged := by
    rw [exists_merge_iff, exists_merge_iff]
    exact ⟨OneToOne.swap, OneToOne.swap⟩
  cases first : a.merge b with
  | error conflict =>
    cases second : b.merge a with
    | error other => rfl
    | ok merged => simp [first, second] at either
  | ok merged =>
    cases second : b.merge a with
    | error conflict => simp [first, second] at either
    | ok other =>
      have entries := merge_eq_ok_iff_entries.1 first
      have otherEntries := merge_eq_ok_iff_entries.1 second
      simp only [alikeOutcomes, alike, size, entries, otherEntries, List.length_append,
        Nat.add_comm, beq_self_eq_true, Bool.true_and, List.all_eq_true, decide_eq_true_eq]
      intro entry member
      exact List.mem_append.2 (List.mem_append.1 member).symm

/-- Three glossaries, the first two merged before the third comes in. -/
theorem merge_left_eq_ok_iff {merged : Glossary} :
    (a.merge b >>= (·.merge c)) = .ok merged ↔
      merged.entries = a.entries ++ b.entries ++ c.entries := by
  constructor
  · intro made
    cases first : a.merge b with
    | error conflict => simp [first, bind, Except.bind] at made
    | ok front =>
      rw [first] at made
      rw [merge_eq_ok_iff_entries.1 made, merge_eq_ok_iff_entries.1 first]
  · intro same
    have unique : OneToOne (a.entries ++ b.entries ++ c.entries) := same ▸ merged.oneToOne
    obtain ⟨front, first⟩ := exists_merge_iff.2 unique.of_append
    rw [first]
    apply merge_eq_ok_iff_entries.2
    rw [same, merge_eq_ok_iff_entries.1 first]

/-- Three glossaries, the last two merged before they come in. -/
theorem merge_right_eq_ok_iff {merged : Glossary} :
    (b.merge c >>= a.merge) = .ok merged ↔
      merged.entries = a.entries ++ (b.entries ++ c.entries) := by
  constructor
  · intro made
    cases last : b.merge c with
    | error conflict => simp [last, bind, Except.bind] at made
    | ok back =>
      rw [last] at made
      rw [merge_eq_ok_iff_entries.1 made, merge_eq_ok_iff_entries.1 last]
  · intro same
    have unique : OneToOne (a.entries ++ (b.entries ++ c.entries)) := same ▸ merged.oneToOne
    obtain ⟨back, last⟩ := exists_merge_iff.2 unique.swap.of_append
    rw [last]
    apply merge_eq_ok_iff_entries.2
    rw [same, merge_eq_ok_iff_entries.1 last]

/-- Merges may be grouped in either way, though they may fail with different conflicts. -/
theorem toOption_merge_assoc (a b c : Glossary) :
    (a.merge b >>= (·.merge c)).toOption = (b.merge c >>= a.merge).toOption := by
  have same (merged : Glossary) : (a.merge b >>= (·.merge c)) = .ok merged ↔
      (b.merge c >>= a.merge) = .ok merged := by
    rw [merge_left_eq_ok_iff, merge_right_eq_ok_iff, List.append_assoc]
  cases left : a.merge b >>= (·.merge c) with
  | ok merged => rw [(same merged).1 left]
  | error conflict =>
    cases right : b.merge c >>= a.merge with
    | ok merged => simp [(same merged).2 right] at left
    | error other => rfl

end Glossary

/-- All checks agree. What looks for a conflict finds none exactly in entries that are one to one,
and otherwise the first one; building and merging, with entries and with tables, succeed with all
the entries in order exactly if there is none, and fail with that conflict otherwise. Merging
depends on the order of two glossaries only in the order of the entries, and not on the grouping of
three. -/
theorem conflict_checks_agree (entries : List Entry) :
    ((firstConflict entries = none ↔ OneToOne entries) ∧
      (∀ conflict, firstConflict entries = some conflict ↔ conflict.IsFirstOf entries) ∧
      (Glossary.ofEntries entries).map Glossary.entries = checked entries ∧
      (Glossary.ofEntries? entries).map Glossary.entries = (checked entries).toOption) ∧
    (TwoTables.empty.firstConflict entries = firstConflict entries ∧
      (TwoTables.ofEntries entries).map TwoTables.entries = checked entries ∧
      (TwoTables.ofEntries? entries).map TwoTables.entries = (checked entries).toOption) ∧
    (∀ a b : Glossary,
      (a.merge b).map Glossary.entries = checked (a.entries ++ b.entries) ∧
      (a.tables.merge b.tables).map TwoTables.entries = checked (a.entries ++ b.entries) ∧
      Glossary.alikeOutcomes (a.merge b) (b.merge a) = true) ∧
    ∀ a b c : Glossary,
      (a.merge b >>= (·.merge c)).toOption = (b.merge c >>= a.merge).toOption := by
  refine ⟨⟨firstConflict_eq_none_iff, fun _ => firstConflict_eq_some_iff,
    Glossary.entries_ofEntries entries, ?_⟩, ⟨Glossary.firstConflict_tables .empty entries,
    TwoTables.entries_ofEntries entries, ?_⟩, fun a b => ⟨Glossary.entries_merge a b,
    TwoTables.entries_merge a b, Glossary.alikeOutcomes_merge a b⟩, Glossary.toOption_merge_assoc⟩
  · rw [← Glossary.entries_ofEntries, Glossary.ofEntries?]
    cases Glossary.ofEntries entries <;> rfl
  · rw [← TwoTables.entries_ofEntries, Recipe.ofEntries?_eq]
    cases TwoTables.ofEntries entries <;> rfl

end Diglot
