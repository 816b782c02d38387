import Diglot.Proofs.GatheredDeclarations
import Diglot.Proofs.Sessions
import Diglot.Proofs.WrittenJson

/-!
# Snapshots that are loaded again

A library that is saved as a snapshot comes back with the same entries in the same order, as long as
none of its symbols is empty: the reader refuses a pair with an empty symbol, and every other text
passes through its written form and its bytes unchanged. What declarations say never has an empty
symbol, so that every derived library comes back (`snapshot_reloads`).
-/

set_option autoImplicit false

namespace Diglot

def Entry.Spelled (entry : Entry) : Prop :=
  entry.localized ≠ [] ∧ entry.primary ≠ []

instance (entry : Entry) : Decidable entry.Spelled :=
  inferInstanceAs (Decidable (_ ∧ _))

/-! ## The document of a library -/

namespace Snapshot

variable {entries : List Entry}

/-- The document has the tier and the pairs in an object, the pairs in an array, and the symbols of
each pair in an array again. -/
theorem textual_document (depth : Nat) (entries : List Entry) :
    Json.Textual (depth + 3) (document entries) := by
  have pairs : Json.Textual (depth + 2) (.array (entries.map pair)) := by
    apply Json.Textual.array
    intro item member
    obtain ⟨entry, -, rfl⟩ := List.mem_map.1 member
    apply Json.Textual.array
    intro side member
    rcases List.mem_pair.1 member with rfl | rfl
    · exact .string entry.localized
    · exact .string entry.primary
  apply Json.Textual.object
  · intro member inObject
    rcases List.mem_pair.1 inObject with rfl | rfl
    · exact .string tierName
    · exact pairs
  · show [tierMember, pairsMember].Nodup
    decide

theorem mapM_pair (spelled : ∀ entry ∈ entries, entry.Spelled) :
    (entries.map pair).mapM entryOf = .ok entries := by
  induction entries with
  | nil => rfl
  | cons entry entries ih =>
    have read : entryOf (pair entry) = .ok entry := by
      obtain ⟨localized, primary⟩ := spelled entry (by simp)
      simp [entryOf, pair, localized, primary]
    rw [List.map_cons, List.mapM_cons, read, ih fun entry member => spelled entry (.tail _ member)]
    rfl

/-- The bytes of a snapshot hold its entries. -/
theorem decode_encode (spelled : ∀ entry ∈ entries, entry.Spelled) :
    decode (encode entries) = .ok entries := by
  have found : (document entries).member? pairsMember = some (.array (entries.map pair)) := rfl
  unfold decode encode
  rw [Text.Utf8.decode_encode]
  dsimp only
  rw [Json.read?_write (textual_document 1021 entries)]
  dsimp only
  rw [entriesOf, found]
  exact mapM_pair spelled

end Snapshot

/-! ## What declarations say -/

namespace Library

theorem spelled_of_entryOfLine? {line : Text} {entry : Entry}
    (read : entryOfLine? line = some entry) : entry.Spelled := by
  have body {text : Text} (read : body? text = some entry) : entry.Spelled := by
    obtain ⟨_, _, -, -, spelled⟩ := body?_eq_some read
    exact spelled
  rw [entryOfLine?] at read
  split at read
  · exact body read
  · split at read
    · exact body read
    · simp at read

theorem spelled_of_mem_derive {texts : List Text} {entry : Entry}
    (member : entry ∈ (derive texts).glossary.entries) : entry.Spelled := by
  rw [derive, (gather_eq_chosen _).1, mem_chosen_iff] at member
  obtain ⟨place, here, -⟩ := member
  obtain ⟨text, -, inText⟩ := List.mem_flatMap.1 (List.mem_of_getElem? here)
  obtain ⟨line, -, read⟩ := List.mem_filterMap.1 inText
  exact spelled_of_entryOfLine? read

end Library

/-! ## Saving and loading -/

namespace Session

variable {tree after : FileTree} {path : Path} {place : Place} {library : Glossary}

theorem does_saveSnapshot
    (writable : (tree.store path (Snapshot.encode library.entries)).failure = none) :
    (saveSnapshot library path).Does tree (.ok ())
      (tree.store path (Snapshot.encode library.entries)).tree := by
  have writes : (writeBytes path (Snapshot.encode library.entries)).Does tree _ _ :=
    does_writeBytes path _
  rw [FileTree.Preparation.answer_eq_ok_iff.2 writable] at writes
  exact writes.bind (does_record _)

/-- A stored snapshot is loaded as the library that was saved. -/
theorem does_loadLibrary (isSnapshot : path.suffix = snapshotSuffix)
    (spelled : ∀ entry ∈ library.entries, entry.Spelled)
    (stored : tree.Stored after path (Snapshot.encode library.entries) place) :
    (loadLibrary path).Does after (.ok library) after := by
  have looks : (nodeAt? path).Does after _ after := does_nodeAt? path
  have reads : (readBytes path).Does after _ after := does_readBytes path
  rw [stored.lookup] at looks
  rw [stored.read] at reads
  refine looks.bind ?_
  dsimp only
  rw [if_pos isSnapshot]
  refine reads.bind ?_
  rw [Snapshot.decode_encode spelled]
  dsimp only
  rw [glossaryOf, Glossary.ofEntries_eq_ok_iff.2 rfl]
  exact does_pure library

/-- The library can be saved at the path, and loading the path then gives it back. -/
def Reloads (library : Glossary) (path : Path) (before : Workspace) : Prop :=
  ∃ after, (saveSnapshot library path).on before = (.ok (), after) ∧
    ((loadLibrary path).on after).1 = .ok library

theorem reloads {before : Workspace} (isSnapshot : path.suffix = snapshotSuffix)
    (writable : (before.tree.store path (Snapshot.encode library.entries)).failure = none)
    (spelled : ∀ entry ∈ library.entries, entry.Spelled) : Reloads library path before := by
  obtain ⟨after, saved, left⟩ := (does_saveSnapshot writable).run rfl
  obtain ⟨place, stored⟩ := FileTree.stored_of_store writable
  rw [← left] at stored
  exact ⟨after, saved, (does_loadLibrary isSnapshot spelled stored after rfl).1⟩

end Session

/-- Wherever a snapshot file can be written, every library without empty symbols is loaded as it was
saved, and so is every library that is derived from declarations. -/
theorem snapshot_reloads (path : Path) (before : Workspace)
    (isSnapshot : path.suffix = Session.snapshotSuffix)
    (writable : ∃ contents, ((Session.writeBytes path contents).on before).1 = .ok ()) :
    (∀ library : Glossary, (∀ entry ∈ library.entries, entry.Spelled) →
        Session.Reloads library path before) ∧
      ∀ texts, Session.Reloads (Library.derive texts).glossary path before := by
  obtain ⟨contents, written⟩ := writable
  rw [(Session.does_writeBytes path contents before rfl).1,
    FileTree.Preparation.answer_eq_ok_iff] at written
  constructor
  · intro library spelled
    exact Session.reloads isSnapshot (FileTree.store_of_store written) spelled
  · intro texts
    apply Session.reloads isSnapshot (FileTree.store_of_store written)
    intro entry member
    exact Library.spelled_of_mem_derive member

def snapshotPath : Path :=
  .ofParts [['o', 'u', 't'], ['l', 'i', 'b', '.', 'j', 's', 'o', 'n']]

/-- Symbols with characters of every written form: quotes, backslashes, controls with and without
an escape of their own, line separators and characters of one to four bytes. -/
def escapedLibrary : Glossary where
  entries :=
    [⟨['"', '\\', '/', '\x08', '\x0c', '\n', '\r', '\t', '\x00', '\x1f', '\x7f'], [' ']⟩,
      ⟨['א', 'ו', 'י', 'ב'], ['\u2028', '\u2029', '\ufeff', '😀', 'é', '\\']⟩]
  localized_nodup := by decide
  primary_nodup := by decide

theorem snapshot_reloads_escaped :
    Session.Reloads escapedLibrary snapshotPath { tree := .empty } ∧
      Session.Reloads (Library.derive ["typealias ש = \"a\\b\"".toList]).glossary snapshotPath
        { tree := .empty } := by
  have writable : ((Session.writeBytes snapshotPath []).on { tree := .empty }).1 = .ok () :=
    eq_ok_of_toOption (by decide +kernel)
  obtain ⟨saved, derived⟩ :=
    snapshot_reloads snapshotPath { tree := .empty } (by decide) ⟨[], writable⟩
  exact ⟨saved escapedLibrary (by decide), derived _⟩

end Diglot
