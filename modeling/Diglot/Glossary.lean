import Diglot.Text.Quoted

/-!
# Glossaries

A glossary pairs localized symbols with primary symbols, one to one, in the order in which they
were entered. No symbol is entered twice on a side: the type carries both facts, so the two lookups
`primaryOf?` and `localizedOf?` are inverse to each other. Symbols are texts where nothing else is
said; symbols that come from outside are raw texts, and a glossary is `raw` when it is compared with
them.

Untrusted entries become a glossary by `ofEntries`, which stops at the first `Conflict`;
`firstConflict` finds it without building anything. `merge` puts the entries of two glossaries
after one another.
-/

set_option autoImplicit false

namespace Diglot

structure Entry (σ : Type := Text) where
  localized : σ
  primary : σ
  deriving DecidableEq, Repr

/-- The two vocabularies that an entry joins. -/
inductive Side
  | localized
  | primary
  deriving DecidableEq, Repr

variable {σ τ : Type}

def Entry.symbol (entry : Entry σ) : Side → σ
  | .localized => entry.localized
  | .primary => entry.primary

/-- The entry with other symbols in place of its own. -/
def Entry.map (f : σ → τ) (entry : Entry σ) : Entry τ :=
  ⟨f entry.localized, f entry.primary⟩

def Entry.raw (entry : Entry) : Entry RawText :=
  entry.map Text.raw

/-- The entry with the replacement character for each surrogate. Neither of the two is a blank, a line
break or a mark of some format. -/
def Entry.toText (entry : Entry RawText) : Entry :=
  entry.map RawText.toText

/-- An entry that repeats a symbol of an earlier one. -/
structure Conflict (σ : Type := Text) where
  side : Side
  entry : Entry σ
  existing : Entry σ
  deriving DecidableEq, Repr

def Conflict.map (f : σ → τ) (conflict : Conflict σ) : Conflict τ :=
  ⟨conflict.side, conflict.entry.map f, conflict.existing.map f⟩

namespace Glossary

variable [DecidableEq σ] [DecidableEq τ]

/-- The entry's conflict with earlier entries; a repeated localized symbol is named before a
repeated primary one. -/
def conflictWith (earlier : List (Entry σ)) (entry : Entry σ) : Option (Conflict σ) :=
  match earlier.find? (·.localized = entry.localized) with
  | some existing => some ⟨.localized, entry, existing⟩
  | none =>
    match earlier.find? (·.primary = entry.primary) with
    | some existing => some ⟨.primary, entry, existing⟩
    | none => none

/-- The first conflict of the entries with one another or with earlier ones. -/
def firstConflictAfter (earlier : List (Entry σ)) : List (Entry σ) → Option (Conflict σ)
  | [] => none
  | entry :: entries =>
    match conflictWith earlier entry with
    | some conflict => some conflict
    | none => firstConflictAfter (earlier ++ [entry]) entries

/-- The first entry that repeats a symbol, with the entry that has it already. -/
def firstConflict (entries : List (Entry σ)) : Option (Conflict σ) :=
  firstConflictAfter [] entries

/-- An entry has no conflict exactly when both its symbols are new. -/
theorem conflictWith_eq_none_iff {earlier : List (Entry σ)} {entry : Entry σ} :
    conflictWith earlier entry = none ↔
      entry.localized ∉ earlier.map Entry.localized ∧
        entry.primary ∉ earlier.map Entry.primary := by
  have absent (f : Entry σ → σ) :
      earlier.find? (fun e => decide (f e = f entry)) = none ↔ f entry ∉ earlier.map f := by
    simp [List.find?_eq_none]
  rw [← absent Entry.localized, ← absent Entry.primary, conflictWith]
  split
  · next found => simp [found]
  · next unfound => split <;> simp_all

end Glossary

/-- Different symbols stay different when each is replaced by one of its own. -/
theorem nodup_map_symbol {f : σ → τ} (injective : ∀ a b, f a = f b → a = b) {symbols : List σ}
    (nodup : symbols.Nodup) : (symbols.map f).Nodup :=
  List.Pairwise.map f (fun a b differ same => differ (injective a b same)) nodup

/-- A one-to-one pairing of localized and primary symbols, in order of entry. -/
structure Glossary (σ : Type := Text) where
  entries : List (Entry σ)
  localized_nodup : (entries.map Entry.localized).Nodup
  primary_nodup : (entries.map Entry.primary).Nodup

namespace Glossary

def empty : Glossary σ := ⟨[], by simp, by simp⟩

def size (glossary : Glossary σ) : Nat :=
  glossary.entries.length

def localizedSymbols (glossary : Glossary σ) : List σ :=
  glossary.entries.map Entry.localized

def primarySymbols (glossary : Glossary σ) : List σ :=
  glossary.entries.map Entry.primary

/-- The glossary with other symbols in place of its own; different symbols stay different. -/
def map (f : σ → τ) (injective : ∀ a b, f a = f b → a = b) (glossary : Glossary σ) :
    Glossary τ where
  entries := glossary.entries.map (Entry.map f)
  localized_nodup := by
    have same : (glossary.entries.map (Entry.map f)).map Entry.localized =
        (glossary.entries.map Entry.localized).map f := by simp [Entry.map]
    rw [same]
    exact nodup_map_symbol injective glossary.localized_nodup
  primary_nodup := by
    have same : (glossary.entries.map (Entry.map f)).map Entry.primary =
        (glossary.entries.map Entry.primary).map f := by simp [Entry.map]
    rw [same]
    exact nodup_map_symbol injective glossary.primary_nodup

def raw (glossary : Glossary) : Glossary RawText :=
  glossary.map Text.raw Text.raw_injective

@[simp] theorem entries_raw (glossary : Glossary) :
    glossary.raw.entries = glossary.entries.map Entry.raw := rfl

variable [DecidableEq σ] [DecidableEq τ]

def primaryOf? (glossary : Glossary σ) (symbol : σ) : Option σ :=
  (glossary.entries.find? (·.localized = symbol)).map Entry.primary

def localizedOf? (glossary : Glossary σ) (symbol : σ) : Option σ :=
  (glossary.entries.find? (·.primary = symbol)).map Entry.localized

/-- The symbol that a glossary pairs with `symbol`, read first as a localized and then as a primary
symbol. -/
def partner? (glossary : Glossary σ) (symbol : σ) : Option σ :=
  glossary.primaryOf? symbol <|> glossary.localizedOf? symbol

section Map

variable {f : σ → τ} (injective : ∀ a b, f a = f b → a = b)

omit [DecidableEq σ] [DecidableEq τ] in
@[simp] theorem entries_map (glossary : Glossary σ) :
    (glossary.map f injective).entries = glossary.entries.map (Entry.map f) := rfl

/-- Looking for a symbol that was put in another's place finds what was put in place of that one's
partner. -/
theorem partner?_map (glossary : Glossary σ) (symbol : σ) :
    (glossary.map f injective).partner? (f symbol) = (glossary.partner? symbol).map f := by
  have same (a : σ) : f a = f symbol ↔ a = symbol :=
    ⟨injective a symbol, congrArg f⟩
  have primary : (glossary.map f injective).primaryOf? (f symbol) =
      (glossary.primaryOf? symbol).map f := by
    simp [primaryOf?, map, Entry.map, List.find?_map, Function.comp_def, same]
  have localized : (glossary.map f injective).localizedOf? (f symbol) =
      (glossary.localizedOf? symbol).map f := by
    simp [localizedOf?, map, Entry.map, List.find?_map, Function.comp_def, same]
  rw [partner?, partner?, primary, localized]
  cases glossary.primaryOf? symbol <;> rfl

end Map

/-- Two glossaries are alike when they hold the same entries, in whatever order. -/
def alike (a b : Glossary σ) : Bool :=
  a.size == b.size && a.entries.all (· ∈ b.entries)

omit [DecidableEq σ] in
/-- New symbols that are not among the old ones leave a list without repetition. -/
theorem nodup_append_of_fresh {old new : List σ} (oldNodup : old.Nodup) (newNodup : new.Nodup)
    (fresh : ∀ symbol ∈ new, symbol ∉ old) : (old ++ new).Nodup := by
  rw [List.nodup_append]
  refine ⟨oldNodup, newNodup, ?_⟩
  rintro symbol inOld _ inNew rfl
  exact fresh symbol inNew inOld

/-- Enters one more pair at the end, if both its symbols are new. -/
def add (glossary : Glossary σ) (entry : Entry σ) : Except (Conflict σ) (Glossary σ) :=
  match h : conflictWith glossary.entries entry with
  | some conflict => .error conflict
  | none => .ok
    { entries := glossary.entries ++ [entry]
      localized_nodup := by
        rw [List.map_append]
        apply nodup_append_of_fresh glossary.localized_nodup (by simp)
        simpa using (conflictWith_eq_none_iff.1 h).1
      primary_nodup := by
        rw [List.map_append]
        apply nodup_append_of_fresh glossary.primary_nodup (by simp)
        simpa using (conflictWith_eq_none_iff.1 h).2 }

/-- Enters pairs one after another and stops at the first conflict. -/
def addAll (glossary : Glossary σ) : List (Entry σ) → Except (Conflict σ) (Glossary σ)
  | [] => .ok glossary
  | entry :: entries =>
    match glossary.add entry with
    | .error conflict => .error conflict
    | .ok larger => addAll larger entries

/-- The glossary of the entries, or their first conflict. -/
def ofEntries (entries : List (Entry σ)) : Except (Conflict σ) (Glossary σ) :=
  empty.addAll entries

def ofEntries? (entries : List (Entry σ)) : Option (Glossary σ) :=
  (ofEntries entries).toOption

def mergeConflict (glossary incoming : Glossary σ) : Option (Conflict σ) :=
  incoming.entries.findSome? (conflictWith glossary.entries)

/-- Sides without a common symbol stay free of repetition when put together. -/
theorem nodup_append_of_mergeConflict {glossary incoming : Glossary σ}
    (h : glossary.mergeConflict incoming = none) :
    ((glossary.entries ++ incoming.entries).map Entry.localized).Nodup ∧
      ((glossary.entries ++ incoming.entries).map Entry.primary).Nodup := by
  have apart (entry : Entry σ) (member : entry ∈ incoming.entries) :=
    conflictWith_eq_none_iff.1 (List.findSome?_eq_none_iff.1 h entry member)
  rw [List.map_append, List.map_append]
  constructor
  · apply nodup_append_of_fresh glossary.localized_nodup incoming.localized_nodup
    intro symbol member
    obtain ⟨entry, entered, rfl⟩ := List.mem_map.1 member
    exact (apart entry entered).1
  · apply nodup_append_of_fresh glossary.primary_nodup incoming.primary_nodup
    intro symbol member
    obtain ⟨entry, entered, rfl⟩ := List.mem_map.1 member
    exact (apart entry entered).2

/-- The entries of `glossary` and then those of `incoming`, if no symbol is in both. -/
def merge (glossary incoming : Glossary σ) : Except (Conflict σ) (Glossary σ) :=
  match h : glossary.mergeConflict incoming with
  | some conflict => .error conflict
  | none => .ok
    ⟨glossary.entries ++ incoming.entries, (nodup_append_of_mergeConflict h).1,
      (nodup_append_of_mergeConflict h).2⟩

def shown (glossary : Glossary σ) : String :=
  s!"BiMap({glossary.size} pairs)"

/-- A new entry stands at the end. -/
theorem entries_add {glossary larger : Glossary σ} {entry : Entry σ}
    (h : glossary.add entry = .ok larger) : larger.entries = glossary.entries ++ [entry] := by
  rw [add] at h
  split at h
  · simp at h
  · exact (congrArg entries (Except.ok.inj h)).symm

/-! ## Which entries make a glossary -/

variable {glossary larger incoming merged : Glossary σ} {entry : Entry σ} {entries : List (Entry σ)}

omit [DecidableEq σ] in
theorem ext_entries {a b : Glossary σ} (same : a.entries = b.entries) : a = b := by
  obtain ⟨entries, _, _⟩ := a
  obtain ⟨_, _, _⟩ := b
  obtain rfl := same
  rfl

theorem exists_add (free : conflictWith glossary.entries entry = none) :
    ∃ larger, glossary.add entry = .ok larger := by
  rw [add]
  split
  · next conflict found => simp [free] at found
  · exact ⟨_, rfl⟩

/-- An entry between others of a glossary repeats no symbol of those before it. -/
theorem conflictWith_of_append {earlier later : List (Entry σ)}
    (same : glossary.entries = earlier ++ entry :: later) : conflictWith earlier entry = none := by
  have localized := glossary.localized_nodup
  have primary := glossary.primary_nodup
  rw [same, List.map_append, List.nodup_append, List.map_cons] at localized primary
  rw [conflictWith_eq_none_iff]
  exact ⟨fun member => localized.2.2 _ member _ (by simp) rfl,
    fun member => primary.2.2 _ member _ (by simp) rfl⟩

theorem addAll_eq_ok_iff :
    glossary.addAll entries = .ok larger ↔ larger.entries = glossary.entries ++ entries := by
  induction entries generalizing glossary with
  | nil =>
    rw [addAll, List.append_nil, Except.ok.injEq]
    exact ⟨fun same => same ▸ rfl, fun same => ext_entries same.symm⟩
  | cons entry entries ih =>
    rw [addAll]
    cases added : glossary.add entry with
    | ok more => simp only [ih, entries_add added, List.append_assoc, List.singleton_append]
    | error conflict =>
      simp only [reduceCtorEq, false_iff]
      intro same
      obtain ⟨more, added'⟩ := exists_add (conflictWith_of_append same)
      simp [added] at added'

theorem ofEntries_eq_ok_iff : ofEntries entries = .ok glossary ↔ glossary.entries = entries := by
  rw [ofEntries, addAll_eq_ok_iff, empty, List.nil_append]

theorem merge_eq_ok_iff :
    glossary.merge incoming = .ok merged ↔
      (∀ entry ∈ incoming.entries, conflictWith glossary.entries entry = none) ∧
        merged.entries = glossary.entries ++ incoming.entries := by
  rw [← List.findSome?_eq_none_iff, ← mergeConflict, merge]
  split
  · next conflict found => simp [found]
  · next free =>
    rw [Except.ok.injEq]
    exact ⟨fun same => ⟨free, same ▸ rfl⟩, fun same => ext_entries same.2.symm⟩

end Glossary

/-- The names of the two glossaries of a merge that failed; both are empty for entries that came
without names. -/
structure MergeLabels where
  source : Text
  incoming : Text
  deriving DecidableEq, Repr

def MergeLabels.none : MergeLabels := ⟨[], []⟩

/-- What a conflict says, with the names of the glossaries where they have one. -/
def Conflict.message (conflict : Conflict RawText) (labels : MergeLabels) : String :=
  let localized := conflict.entry.localized.shown
  let primary := conflict.entry.primary.shown
  let place := if labels.source.isEmpty then "" else " in '" ++ labels.source.toStr ++ "'"
  let origin := if labels.incoming.isEmpty then "" else " from '" ++ labels.incoming.toStr ++ "'"
  match conflict.side with
  | .localized =>
    s!"key {localized} is already defined{place}; " ++
      s!"incoming mapping {localized} -> {primary}{origin} repeats it"
  | .primary =>
    s!"value {primary} is already mapped{place}; " ++
      s!"incoming mapping {localized} -> {primary}{origin} would not be bijective"

end Diglot
