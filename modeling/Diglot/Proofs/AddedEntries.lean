import Diglot.Proofs.DictionaryEntries
import Diglot.Proofs.ProjectNames
import Diglot.Proofs.Sessions

/-!
# Entries that are added to a project dictionary

Adding an entry reads the whole dictionary and writes it anew. An entry that was added is read back
with all the others exactly if every entry of the new tier is representable
(`added_entry_read_back_iff`); the checks of an addition do not ask for that.

An entry comes from outside and may hold surrogates. Then the dictionary has no bytes, and the
addition fails with the file already emptied (`Session.on_addEntry_of_ok`).
-/

set_option autoImplicit false

namespace Diglot

/-! ## Entries without surrogates -/

@[simp] theorem RawText.written_raw (text : Text) : text.raw.written = Text.Utf8.encode text := by
  rw [RawText.written, Text.Utf8.encodeRaw_raw]

theorem RawText.written_of_hasSurrogate {raw : RawText} (broken : raw.hasSurrogate = true) :
    raw.written = [] := by
  simp [RawText.written, Text.Utf8.encodeRaw, broken]

namespace Entry

/-- An entry whose symbols hold no surrogate. -/
def Encodable (entry : Entry RawText) : Prop :=
  entry.localized.hasSurrogate = false ∧ entry.primary.hasSurrogate = false

instance (entry : Entry RawText) : Decidable entry.Encodable :=
  inferInstanceAs (Decidable (_ ∧ _))

@[simp] theorem toText_raw (entry : Entry) : entry.raw.toText = entry := by
  simp [toText, raw, map]

theorem raw_toText_iff {entry : Entry RawText} : entry.toText.raw = entry ↔ entry.Encodable := by
  obtain ⟨localized, primary⟩ := entry
  rw [Encodable, ← RawText.raw_toText_iff, ← RawText.raw_toText_iff]
  simp [toText, raw, map]

theorem encodable_raw (entry : Entry) : entry.raw.Encodable :=
  raw_toText_iff.1 (by rw [toText_raw])

end Entry

namespace Glossary

theorem raw_inj {a b : Glossary} : a.raw = b.raw ↔ a = b := by
  refine ⟨fun same => ext_entries ?_, fun same => same ▸ rfl⟩
  have entries : a.entries.map Entry.raw = b.entries.map Entry.raw := congrArg Glossary.entries same
  refine List.map_injective_iff.2 ?_ entries
  exact Function.LeftInverse.injective Entry.toText_raw

/-- A glossary without surrogates is one of texts. -/
theorem exists_raw {merged : Glossary RawText}
    (encodable : ∀ entry ∈ merged.entries, entry.Encodable) :
    ∃ tier : Glossary, tier.raw = merged := by
  have same : (merged.entries.map Entry.toText).map Entry.raw = merged.entries := by
    rw [List.map_map]
    refine (List.map_congr_left fun entry member => ?_).trans (List.map_id _)
    exact Entry.raw_toText_iff.2 (encodable entry member)
  have localized := merged.localized_nodup
  have primary := merged.primary_nodup
  rw [← same, List.map_map] at localized primary
  have nodup {side : Entry → Text} (symbols : (List.map (fun entry => (side entry).raw)
      (merged.entries.map Entry.toText)).Nodup) :
      ((merged.entries.map Entry.toText).map side).Nodup := by
    apply List.Nodup.of_map Text.raw
    rwa [List.map_map]
  exact ⟨⟨_, nodup localized, nodup primary⟩, ext_entries same⟩

def single (entry : Entry RawText) : Glossary RawText := ⟨[entry], by simp, by simp⟩

theorem ofEntries_single (entry : Entry RawText) : ofEntries [entry] = .ok (single entry) :=
  ofEntries_eq_ok_iff.2 rfl

end Glossary

namespace Dictionary

theorem hasSurrogate_entryLineOf (entry : Entry RawText) :
    RawText.hasSurrogate (entryLineOf .char entry) =
      (entry.localized.hasSurrogate || entry.primary.hasSurrogate) := by
  rw [entryLineOf]
  simp only [RawText.hasSurrogate_append]
  simp [RawText.hasSurrogate, CodePoint.isSurrogate]

/-- A dictionary holds a surrogate exactly if one of its entries does. -/
theorem hasSurrogate_renderRaw_iff {entries : List (Entry RawText)} :
    (renderRaw entries).hasSurrogate = false ↔ ∀ entry ∈ entries, entry.Encodable := by
  have lines : RawText.hasSurrogate (entries.flatMap (entryLineOf .char)) = false ↔
      ∀ entry ∈ entries, entry.Encodable := by
    induction entries with
    | nil => simp [RawText.hasSurrogate]
    | cons entry entries ih =>
      rw [List.flatMap_cons, RawText.hasSurrogate_append, Bool.or_eq_false_iff, ih,
        hasSurrogate_entryLineOf, Bool.or_eq_false_iff, List.forall_mem_cons, Entry.Encodable]
  rw [← lines, renderRaw, renderOf, RawText.hasSurrogate_append, Bool.or_eq_false_iff]
  exact and_iff_right (RawText.hasSurrogate_raw _)

theorem written_renderRaw (entries : List Entry) :
    (renderRaw (entries.map Entry.raw)).written = Text.Utf8.encode (render entries) := by
  rw [renderRaw_map_raw, RawText.written_raw]

end Dictionary

/-! ## What an addition does -/

theorem FileTree.Preparation.answerTo_eq_ok_iff {prepared : Preparation} {text : RawText} :
    prepared.answerTo text = .ok () ↔ prepared.failure = none ∧ text.hasSurrogate = false := by
  rw [← answer_eq_ok_iff, answerTo, Text.Utf8.encodeRaw]
  cases prepared.answer with
  | error fault => simp [bind, Except.bind]
  | ok => cases text.hasSurrogate <;> simp [bind, Except.bind, Except.mapError, pure, Except.pure]

namespace FileTree

variable {tree after : FileTree} {path : Path} {entry : Entry RawText}
  {lexicon : Option (Lexicon RawText)} {existing tier : Glossary} {merged : Glossary RawText}
  {place : Place}

/-- An entry may join a project tier exactly if both its symbols are new to it and the tiers above
it know neither. -/
theorem extended_eq_ok_iff (loaded : tree.project path = .ok existing) :
    tree.extended path entry lexicon = .ok merged ↔
      Glossary.conflictWith existing.raw.entries entry = none ∧
        (∀ tiers ∈ lexicon, ∀ side, tiers.keywords.partner? (entry.symbol side) = none ∧
          tiers.library.partner? (entry.symbol side) = none) ∧
        merged.entries = existing.raw.entries ++ [entry] := by
  have joins {together : Glossary RawText} : existing.raw.merge (.single entry) = .ok together ↔
      Glossary.conflictWith existing.raw.entries entry = none ∧
        together.entries = existing.raw.entries ++ [entry] := by
    simp [Glossary.merge_eq_ok_iff, Glossary.single]
  have unknown : (∀ tiers ∈ lexicon, ∀ side, tiers.keywords.partner? (entry.symbol side) = none ∧
        tiers.library.partner? (entry.symbol side) = none) ↔
      (lexicon.bind fun tiers =>
        Lexicon.firstClash tiers.keywords tiers.library (.single entry)) = none := by
    simp [Option.bind_eq_none_iff, Lexicon.firstClash_eq_none_iff, Glossary.single]
  rw [extended, loaded, Glossary.ofEntries_single, unknown]
  dsimp only [bind, Except.bind, Except.mapError]
  cases merges : existing.raw.merge (.single entry) with
  | error conflict =>
    simp only [reduceCtorEq, false_iff]
    rintro ⟨free, -, same⟩
    simp [joins.2 ⟨free, same⟩] at merges
  | ok together =>
    obtain ⟨free, entries⟩ := joins.1 merges
    dsimp only
    split
    · next clash found => simp [found, throw, throwThe, MonadExceptOf.throw]
    · next noClash =>
      simp only [pure, Except.pure, Except.ok.injEq, free, noClash, true_and, ← entries]
      exact ⟨fun same => same ▸ rfl, fun same => Glossary.ext_entries same.symm⟩

theorem Stored.text {text : Text}
    (stored : tree.Stored after path (Text.Utf8.encode text) place) :
    after.text path = .ok (Text.withNewlines text) := by
  rw [FileTree.text, stored.read]
  simp only [Except.mapError, bind, Except.bind, Text.Utf8.decode_encode, pure, Except.pure]

/-- The tier of a dictionary that was just written is what its text says. -/
theorem Stored.project_eq_ok_iff {text : Text}
    (stored : tree.Stored after path (Text.Utf8.encode text) place) :
    after.project path = .ok tier ↔ Dictionary.entries text = tier.entries := by
  have loaded : after.project path =
      (Glossary.ofEntries (Dictionary.entries text)).mapError
        (.dictionary path <| .duplicate ·) := by
    rw [FileTree.project, stored.lookup, stored.text]
    simp only [Except.mapError, bind, Except.bind, Dictionary.entries_withNewlines]
  rw [loaded, mapError_eq_ok_iff, Glossary.ofEntries_eq_ok_iff, eq_comm]

end FileTree

namespace Session

variable {path : Path} {entry : Entry RawText} {lexicon : Option (Lexicon RawText)}
  {merged : Glossary RawText} {workspace : Workspace}

theorem on_loadProject (path : Path) (workspace : Workspace) :
    ((loadProject path true).on workspace).1 = workspace.tree.project path :=
  (does_loadProject path workspace rfl).1

/-- An entry that is refused leaves the files as they are. -/
theorem on_addEntry_of_error {fault : Fault}
    (refused : workspace.tree.extended path entry lexicon = .error fault) :
    ((addEntry path entry lexicon).on workspace).1 = .error fault ∧
      ((addEntry path entry lexicon).on workspace).2.tree = workspace.tree := by
  have does := does_addEntry workspace.tree path entry lexicon
  rw [refused] at does
  exact does workspace rfl

/-- An entry that may join is answered with the new tier if all of it has bytes; otherwise the
addition fails. The dictionary is written in both cases. -/
theorem on_addEntry_of_ok (accepted : workspace.tree.extended path entry lexicon = .ok merged)
    (writable : ∀ contents, (workspace.tree.store path contents).failure = none) :
    let text := Dictionary.renderRaw merged.entries
    ((addEntry path entry lexicon).on workspace).1 =
        ((Text.Utf8.encodeRaw text).mapError .unencodable).map (fun _ => merged) ∧
      ∃ place, workspace.tree.Stored ((addEntry path entry lexicon).on workspace).2.tree path
        text.written place := by
  intro text
  have does := does_addEntry workspace.tree path entry lexicon
  rw [accepted] at does
  obtain ⟨answered, left⟩ := does workspace rfl
  refine ⟨?_, left ▸ FileTree.stored_of_store (writable _)⟩
  have stores := FileTree.Preparation.answer_eq_ok_iff.2 (writable text.written)
  rw [answered, FileTree.Preparation.answerTo, stores]
  cases Text.Utf8.encodeRaw text <;> rfl

/-- What an addition that was accepted has done: the new tier, which holds no surrogate, was
written. -/
theorem addEntry_eq_ok (added : ((addEntry path entry lexicon).on workspace).1 = .ok merged) :
    workspace.tree.extended path entry lexicon = .ok merged ∧
      ∃ tier : Glossary, tier.raw = merged ∧
        ∃ place, workspace.tree.Stored ((addEntry path entry lexicon).on workspace).2.tree path
          (Text.Utf8.encode (Dictionary.render tier.entries)) place := by
  have does := does_addEntry workspace.tree path entry lexicon
  cases verdict : workspace.tree.extended path entry lexicon with
  | error fault =>
    rw [verdict] at does
    simp [(does workspace rfl).1] at added
  | ok larger =>
    rw [verdict] at does
    obtain ⟨answered, left⟩ := does workspace rfl
    rw [added] at answered
    obtain ⟨⟨⟩, done, rfl⟩ := map_eq_ok_iff.1 answered.symm
    obtain ⟨stores, unbroken⟩ := FileTree.Preparation.answerTo_eq_ok_iff.1 done
    obtain ⟨tier, rfl⟩ := Glossary.exists_raw (Dictionary.hasSurrogate_renderRaw_iff.1 unbroken)
    obtain ⟨place, stored⟩ := FileTree.stored_of_store stores
    refine ⟨rfl, tier, rfl, place, ?_⟩
    rw [left]
    rwa [Glossary.entries_raw, Dictionary.written_renderRaw] at stored ⊢

end Session

/-- An addition that was accepted is read back, with the whole tier, exactly if every entry of the
new tier is representable. -/
theorem added_entry_read_back_iff (path : Path) (entry : Entry RawText)
    (lexicon : Option (Lexicon RawText)) (before after : Workspace) (merged : Glossary RawText)
    (added : (Session.addEntry path entry lexicon).on before = (.ok merged, after)) :
    ((Session.loadProject path true).on after).1.map Glossary.raw = .ok merged ↔
      ∀ entry ∈ merged.entries, entry.toText.Representable := by
  obtain ⟨-, tier, rfl, place, stored⟩ := Session.addEntry_eq_ok (congrArg Prod.fst added)
  rw [added] at stored
  have same : ((Session.loadProject path true).on after).1.map Glossary.raw = .ok tier.raw ↔
      after.tree.project path = .ok tier := by
    simp [Session.on_loadProject, map_eq_ok_iff, Glossary.raw_inj]
  rw [same, stored.project_eq_ok_iff, Dictionary.entries_render_iff]
  simp

/-- The file `dict` in the working directory. -/
def dictPath : Path := .ofParts [['d', 'i', 'c', 't']]

theorem added_entry_read_back_remarked :
    let dictionary := "tier: project\r\nidentifiers:\r\n  ab : x # y\r\n\tcd:z\r\n".toList
    let tree := FileTree.empty.insertAt dictPath (.file (Text.Utf8.encode dictionary))
    let entry : Entry := ⟨['ש', 'ם'], "sum:of#parts".toList⟩
    ∃ merged after,
      (Session.addEntry dictPath entry.raw (some smallLexicon.raw)).on { tree } =
          (.ok merged, after) ∧
        ((Session.loadProject dictPath true).on after).1.map Glossary.raw = .ok merged := by
  intro dictionary tree entry
  let call := (Session.addEntry dictPath entry.raw (some smallLexicon.raw)).on { tree }
  have entries : call.1.toOption.map Glossary.entries =
      some [Entry.raw ⟨['a', 'b'], ['x']⟩, Entry.raw ⟨['c', 'd'], ['z']⟩, entry.raw] := by
    decide +kernel
  obtain ⟨merged, answered, same⟩ := Option.map_eq_some_iff.1 entries
  have added : call = (.ok merged, call.2) := Prod.ext (eq_ok_of_toOption answered) rfl
  refine ⟨merged, call.2, added, (added_entry_read_back_iff _ _ _ _ _ _ added).2 ?_⟩
  rw [same]
  decide +kernel

/-- A colon in the localized symbol: the entry that was added comes back as another one. -/
theorem added_entry_lost_colon :
    let entry : Entry := ⟨['a', ':', 'b'], ['c']⟩
    let call := (Session.addEntry dictPath entry.raw none).on { tree := .empty }
    call.1.toOption.map Glossary.entries = some [entry.raw] ∧
      ((Session.loadProject dictPath true).on call.2).1.toOption.map Glossary.entries =
        some [⟨['a'], "b: c".toList⟩] := by
  decide +kernel

end Diglot
