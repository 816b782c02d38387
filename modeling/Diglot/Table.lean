import Diglot.Text.Basic

/-!
# Tables

A table holds values by keys and remembers the order in which the keys came. As long as no key comes
twice, setting a value and laying one table over another only append.
-/

set_option autoImplicit false

namespace Diglot

variable {α : Type}

/-- Values by keys, in the order in which the keys came. -/
abbrev Table (α : Type) := List (Text × α)

namespace Table

variable {table incoming : Table α} {key : Text} {value : α}

def keys (table : Table α) : List Text :=
  table.map Prod.fst

def value? (table : Table α) (key : Text) : Option α :=
  (table.find? (·.1 = key)).map Prod.snd

/-- A new key comes last; the value of an old one is replaced where it stands. -/
def set : Table α → Text → α → Table α
  | [], key, value => [(key, value)]
  | (other, old) :: table, key, value =>
    if other = key then (key, value) :: table else (other, old) :: set table key value

/-- Lays one table over another: where both have a key, the upper value counts. -/
def overlay (table : Table α) : Table α → Table α
  | [] => table
  | (key, value) :: incoming => overlay (table.set key value) incoming

theorem keys_append (table incoming : Table α) :
    (table ++ incoming).keys = table.keys ++ incoming.keys :=
  List.map_append

theorem set_of_fresh (fresh : key ∉ table.keys) :
    table.set key value = table ++ [(key, value)] := by
  induction table with
  | nil => rfl
  | cons first table ih =>
    simp only [keys, List.map_cons, List.mem_cons, not_or] at fresh
    rw [set, if_neg (Ne.symm fresh.1), ih fresh.2, List.cons_append]

/-- Without a common key nothing is replaced. -/
theorem overlay_of_nodup (nodup : (table ++ incoming).keys.Nodup) :
    table.overlay incoming = table ++ incoming := by
  induction incoming generalizing table with
  | nil => rw [overlay, List.append_nil]
  | cons first incoming ih =>
    have fresh : first.1 ∉ table.keys := by
      intro member
      rw [keys_append, List.nodup_append] at nodup
      exact nodup.2.2 _ member first.1 (by simp [keys]) rfl
    rw [overlay, set_of_fresh fresh, ih (by simpa using nodup), List.append_assoc,
      List.singleton_append]

end Table

end Diglot
