import Diglot.Proofs.AddedEntries

/-!
# Histories of a project dictionary

Entries are added to a dictionary one after another, and the dictionary should hold the entries that
were accepted, in order. The checks of an addition ask whether an entry is `Admissible`: whether its
symbols are new to the dictionary and to the tiers above the project. They do not ask whether it is
`Encodable`. An admissible entry with a surrogate is refused once the dictionary was emptied, and
all entries before it are lost. For the format of the dictionary a surrogate is a character like
others, so such an entry can be representable.

`keep` is what one addition really makes of the entries, `promise` what it should make of them, and
they agree as long as every entry that should be admitted is encodable (`dictionary_history_iff`).
-/

set_option autoImplicit false

namespace Diglot

/-! ## What an addition makes of the entries -/

/-- An entry both of whose symbols are new, and no symbols of the tiers above the project. -/
structure Entry.Admissible (entry : Entry RawText) (lexicon : Lexicon RawText)
    (accepted : List (Entry RawText)) : Prop where
  localized_new : entry.localized ∉ accepted.map Entry.localized
  primary_new : entry.primary ∉ accepted.map Entry.primary
  unowned : ∀ side, ∀ tier ∈ [lexicon.keywords, lexicon.library],
    entry.symbol side ∉ tier.localizedSymbols ∧ entry.symbol side ∉ tier.primarySymbols

theorem Entry.unowned_iff {entry : Entry RawText} {lexicon : Lexicon RawText} :
    (∀ side, ∀ tier ∈ [lexicon.keywords, lexicon.library],
        entry.symbol side ∉ tier.localizedSymbols ∧ entry.symbol side ∉ tier.primarySymbols) ↔
      ∀ side, lexicon.keywords.partner? (entry.symbol side) = none ∧
        lexicon.library.partner? (entry.symbol side) = none := by
  simp [Glossary.partner?_eq_none_iff]

/-- The check of an addition lets exactly the admissible entries pass. -/
theorem Entry.admissible_iff {entry : Entry RawText} {lexicon : Lexicon RawText}
    {accepted : List (Entry RawText)} :
    entry.Admissible lexicon accepted ↔
      Glossary.conflictWith accepted entry = none ∧
        Lexicon.firstClash lexicon.keywords lexicon.library (.single entry) = none := by
  rw [Glossary.conflictWith_eq_none_iff, Lexicon.firstClash_eq_none_iff]
  simp only [Glossary.single, List.forall_mem_singleton]
  rw [← unowned_iff]
  constructor
  · intro admissible
    exact ⟨⟨admissible.localized_new, admissible.primary_new⟩, admissible.unowned⟩
  · rintro ⟨⟨localized, primary⟩, unowned⟩
    exact ⟨localized, primary, unowned⟩

instance (entry : Entry RawText) (lexicon : Lexicon RawText) (accepted : List (Entry RawText)) :
    Decidable (entry.Admissible lexicon accepted) :=
  decidable_of_iff _ Entry.admissible_iff.symm

/-! ## Histories -/

/-- A project dictionary after some additions were asked for: the workspace, and the entries that
were accepted. -/
structure History where
  workspace : Workspace
  accepted : List (Entry RawText)

namespace History

def step (path : Path) (lexicon : Lexicon RawText) (history : History) (entry : Entry RawText) :
    History :=
  let call := (Session.addEntry path entry (some lexicon)).on history.workspace
  { workspace := call.2
    accepted := if call.1.isOk then history.accepted ++ [entry] else history.accepted }

def run (path : Path) (lexicon : Lexicon RawText) (start : Workspace)
    (calls : List (Entry RawText)) : History :=
  calls.foldl (step path lexicon) ⟨start, []⟩

/-- What the next addition should do: accept exactly the admissible entries and change no file
otherwise, so that the dictionary holds the accepted entries in order, and these clash with no
higher tier. -/
structure Keeps (path : Path) (lexicon : Lexicon RawText) (history : History)
    (entry : Entry RawText) : Prop where
  accepts :
    ((Session.addEntry path entry (some lexicon)).on history.workspace).1.isOk = true ↔
      entry.Admissible lexicon history.accepted
  refuses :
    ((Session.addEntry path entry (some lexicon)).on history.workspace).1.isOk = false →
      (history.step path lexicon entry).workspace.tree = history.workspace.tree
  loads : ∃ tier : Glossary,
    ((Session.loadProject path true).on (history.step path lexicon entry).workspace).1 =
        .ok tier ∧
      tier.raw.entries = (history.step path lexicon entry).accepted ∧
      ∃ developer, Lexicon.ofTiers lexicon.keywords lexicon.library tier.raw = .ok developer

/-- The entries of a dictionary after one more addition was asked for, as they should be. -/
def promise (lexicon : Lexicon RawText) (entries : List (Entry RawText)) (entry : Entry RawText) :
    List (Entry RawText) :=
  if entry.Admissible lexicon entries then entries ++ [entry] else entries

def promised (lexicon : Lexicon RawText) (calls : List (Entry RawText)) : List (Entry RawText) :=
  calls.foldl (promise lexicon) []

/-- The entries of a dictionary after one more addition was asked for, as they are: an entry with a
surrogate empties the dictionary. -/
def keep (lexicon : Lexicon RawText) (entries : List (Entry RawText)) (entry : Entry RawText) :
    List (Entry RawText) :=
  if entry.Admissible lexicon entries then
    if entry.Encodable then entries ++ [entry] else []
  else entries

def kept (lexicon : Lexicon RawText) (calls : List (Entry RawText)) : List (Entry RawText) :=
  calls.foldl (keep lexicon) []

/-! ## What every history keeps -/

/-- What every history of representable entries keeps: the dictionary holds representable entries
that the tiers above the project do not know, and it can be written. -/
structure Sound (path : Path) (lexicon : Lexicon RawText) (workspace : Workspace)
    (entries : List (Entry RawText)) : Prop where
  loads : ∃ tier : Glossary, workspace.tree.project path = .ok tier ∧ tier.raw.entries = entries
  representable : ∀ entry ∈ entries, entry.toText.Representable
  unknown : ∀ entry ∈ entries, ∀ side,
    lexicon.keywords.partner? (entry.symbol side) = none ∧
      lexicon.library.partner? (entry.symbol side) = none
  writable : ∀ contents, (workspace.tree.store path contents).failure = none

namespace Sound

variable {path : Path} {lexicon : Lexicon RawText} {workspace : Workspace}
  {entries : List (Entry RawText)} {entry : Entry RawText}

/-- An entry that is not admissible is refused, and no file changes. -/
theorem refused (sound : Sound path lexicon workspace entries)
    (inadmissible : ¬entry.Admissible lexicon entries) :
    let call := (Session.addEntry path entry (some lexicon)).on workspace
    call.1.isOk = false ∧ call.2.tree = workspace.tree := by
  intro call
  obtain ⟨tier, loaded, rfl⟩ := sound.loads
  cases verdict : workspace.tree.extended path entry (some lexicon) with
  | error fault =>
    obtain ⟨answered, left⟩ := Session.on_addEntry_of_error verdict
    exact ⟨by rw [answered]; rfl, left⟩
  | ok merged =>
    obtain ⟨free, unknown, -⟩ := (FileTree.extended_eq_ok_iff loaded).1 verdict
    refine absurd (Entry.admissible_iff.2 ⟨free, ?_⟩) inadmissible
    rw [Lexicon.firstClash_eq_none_iff, Glossary.single, List.forall_mem_singleton]
    exact unknown lexicon rfl

/-- An admissible entry passes the check. -/
theorem exists_extended (sound : Sound path lexicon workspace entries)
    (admissible : entry.Admissible lexicon entries) :
    ∃ merged, workspace.tree.extended path entry (some lexicon) = .ok merged ∧
      merged.entries = entries ++ [entry] := by
  obtain ⟨tier, loaded, rfl⟩ := sound.loads
  have free := (Entry.admissible_iff.1 admissible).1
  obtain ⟨merged, added⟩ := Glossary.exists_add free
  have same := Glossary.entries_add added
  refine ⟨merged, (FileTree.extended_eq_ok_iff loaded).2 ⟨free, ?_, same⟩, same⟩
  rintro _ ⟨⟩
  exact Entry.unowned_iff.1 admissible.unowned

/-- What was read from the dictionary holds no surrogate. -/
theorem encodable (sound : Sound path lexicon workspace entries) :
    ∀ entry ∈ entries, entry.Encodable := by
  obtain ⟨tier, -, rfl⟩ := sound.loads
  simp [Entry.encodable_raw]

/-- An admissible entry with a surrogate is refused too, but the dictionary is empty after it. -/
theorem emptied (sound : Sound path lexicon workspace entries)
    (admissible : entry.Admissible lexicon entries) (broken : ¬entry.Encodable) :
    let call := (Session.addEntry path entry (some lexicon)).on workspace
    (∃ found, call.1 = .error (.unencodable found)) ∧
      ∃ place, workspace.tree.Stored call.2.tree path [] place := by
  intro call
  obtain ⟨merged, accepted, same⟩ := sound.exists_extended admissible
  obtain ⟨answered, place, stored⟩ := Session.on_addEntry_of_ok accepted sound.writable
  have surrogate : (Dictionary.renderRaw merged.entries).hasSurrogate = true := by
    rw [← Bool.not_eq_false, Dictionary.hasSurrogate_renderRaw_iff, same,
      List.forall_mem_append, List.forall_mem_singleton]
    exact fun encodable => broken encodable.2
  rw [RawText.written_of_hasSurrogate surrogate] at stored
  rw [Text.Utf8.encodeRaw, if_pos surrogate] at answered
  exact ⟨⟨_, answered⟩, place, stored⟩

/-- An admissible entry without surrogates is put at the end, and the dictionary is written anew. -/
theorem appended (sound : Sound path lexicon workspace entries)
    (admissible : entry.Admissible lexicon entries) (encodable : entry.Encodable) :
    let call := (Session.addEntry path entry (some lexicon)).on workspace
    ∃ tier : Glossary, call.1 = .ok tier.raw ∧ tier.raw.entries = entries ++ [entry] ∧
      ∃ place, workspace.tree.Stored call.2.tree path
        (Text.Utf8.encode (Dictionary.render tier.entries)) place := by
  intro call
  obtain ⟨merged, accepted, same⟩ := sound.exists_extended admissible
  obtain ⟨answered, place, stored⟩ := Session.on_addEntry_of_ok accepted sound.writable
  obtain ⟨tier, rfl⟩ : ∃ tier : Glossary, tier.raw = merged := by
    apply Glossary.exists_raw
    rw [same, List.forall_mem_append, List.forall_mem_singleton]
    exact ⟨sound.encodable, encodable⟩
  rw [Glossary.entries_raw, Dictionary.written_renderRaw] at stored
  rw [Glossary.entries_raw, Dictionary.renderRaw_map_raw, Text.Utf8.encodeRaw_raw] at answered
  exact ⟨tier, answered, same, place, stored⟩

/-- An addition of a representable entry keeps the dictionary sound, whatever becomes of the
entry. -/
theorem next (sound : Sound path lexicon workspace entries)
    (representable : entry.toText.Representable) :
    Sound path lexicon ((Session.addEntry path entry (some lexicon)).on workspace).2
      (keep lexicon entries entry) := by
  rw [keep]
  split
  · next admissible =>
    split
    · next encodable =>
      obtain ⟨tier, -, same, place, stored⟩ := sound.appended admissible encodable
      have representable : ∀ entry ∈ tier.raw.entries, entry.toText.Representable := by
        rw [same, List.forall_mem_append, List.forall_mem_singleton]
        exact ⟨sound.representable, representable⟩
      refine ⟨⟨tier, stored.project_eq_ok_iff.2 ?_, same⟩, same ▸ representable, ?_, fun contents =>
        FileTree.store_of_read stored.read⟩
      -- The whole tier was written anew, so one entry that is not representable would spoil it all.
      · rw [Dictionary.entries_render_iff]
        simpa using representable
      · rw [List.forall_mem_append, List.forall_mem_singleton]
        exact ⟨sound.unknown, Entry.unowned_iff.1 admissible.unowned⟩
    · next broken =>
      obtain ⟨-, place, stored⟩ := sound.emptied admissible broken
      have nothing : workspace.tree.Stored _ path (Text.Utf8.encode []) place := stored
      exact ⟨⟨.empty, nothing.project_eq_ok_iff.2 rfl, rfl⟩, by simp, by simp, fun contents =>
        FileTree.store_of_read stored.read⟩
  · next inadmissible =>
    obtain ⟨-, left⟩ := sound.refused inadmissible
    refine ⟨?_, sound.representable, sound.unknown, ?_⟩
    · rw [left]
      exact sound.loads
    · rw [left]
      exact sound.writable

theorem isOk_iff (sound : Sound path lexicon workspace entries) :
    ((Session.addEntry path entry (some lexicon)).on workspace).1.isOk = true ↔
      entry.Admissible lexicon entries ∧ entry.Encodable := by
  by_cases admissible : entry.Admissible lexicon entries
  · by_cases encodable : entry.Encodable
    · obtain ⟨tier, answered, -⟩ := sound.appended admissible encodable
      simp [answered, admissible, encodable, Except.isOk, Except.toBool]
    · obtain ⟨⟨found, answered⟩, -⟩ := sound.emptied admissible encodable
      simp [answered, encodable, Except.isOk, Except.toBool]
  · simp [sound.refused admissible, admissible]

/-- The dictionary is loaded as the entries it should hold, and they make a lexicon. -/
theorem loaded (sound : Sound path lexicon workspace entries) :
    ∃ tier : Glossary, ((Session.loadProject path true).on workspace).1 = .ok tier ∧
      tier.raw.entries = entries ∧
      ∃ developer, Lexicon.ofTiers lexicon.keywords lexicon.library tier.raw = .ok developer := by
  obtain ⟨tier, loaded, same⟩ := sound.loads
  rw [← Session.on_loadProject] at loaded
  refine ⟨tier, loaded, same, _, Lexicon.ofTiers_of_noClash (Lexicon.firstClash_eq_none_iff.2 ?_)⟩
  rw [same]
  exact sound.unknown

/-- A dictionary that is absent and can be written starts without entries. -/
theorem start {start : Workspace} (absent : start.tree.lookup path = .ok none)
    (writable : ∃ text, ((Session.writeText path text).on start).1 = .ok ()) :
    Sound path lexicon start [] where
  loads := by
    refine ⟨.empty, ?_, rfl⟩
    rw [FileTree.project, absent]
    rfl
  representable := by simp
  unknown := by simp
  writable := by
    obtain ⟨text, done⟩ := writable
    rw [(Session.does_writeText path text start rfl).1,
      FileTree.Preparation.answerTo_eq_ok_iff] at done
    exact fun contents => FileTree.store_of_store done.1

end Sound

variable {path : Path} {lexicon : Lexicon RawText} {start : Workspace}
  {calls earlier : List (Entry RawText)} {entry : Entry RawText}

theorem run_concat (calls : List (Entry RawText)) (entry : Entry RawText) :
    run path lexicon start (calls ++ [entry]) =
      (run path lexicon start calls).step path lexicon entry := by
  rw [run, List.foldl_concat]
  rfl

theorem promised_concat (calls : List (Entry RawText)) (entry : Entry RawText) :
    promised lexicon (calls ++ [entry]) = promise lexicon (promised lexicon calls) entry := by
  rw [promised, List.foldl_concat]
  rfl

theorem kept_concat (calls : List (Entry RawText)) (entry : Entry RawText) :
    kept lexicon (calls ++ [entry]) = keep lexicon (kept lexicon calls) entry := by
  rw [kept, List.foldl_concat]
  rfl

/-- What should be admitted stays admitted. -/
theorem promised_isPrefix (early : earlier <+: calls) :
    promised lexicon earlier <+: promised lexicon calls := by
  obtain ⟨later, rfl⟩ := early
  induction later using List.reverseRecOn with
  | nil => rw [List.append_nil]
  | append_singleton later entry ih =>
    rw [← List.append_assoc, promised_concat, promise]
    split
    · exact ih.trans (List.prefix_append _ _)
    · exact ih

theorem sound_run (sound : Sound path lexicon start [])
    (representable : ∀ entry ∈ calls, entry.toText.Representable) :
    Sound path lexicon (run path lexicon start calls).workspace (kept lexicon calls) := by
  induction calls using List.reverseRecOn with
  | nil => exact sound
  | append_singleton calls entry ih =>
    rw [List.forall_mem_append, List.forall_mem_singleton] at representable
    rw [run_concat, kept_concat]
    exact (ih representable.1).next representable.2

/-- As long as everything that should be admitted is encodable, just that is accepted and kept. -/
theorem agree (sound : Sound path lexicon start [])
    (representable : ∀ entry ∈ calls, entry.toText.Representable)
    (encodable : ∀ entry ∈ promised lexicon calls, entry.Encodable) :
    kept lexicon calls = promised lexicon calls ∧
      (run path lexicon start calls).accepted = promised lexicon calls := by
  induction calls using List.reverseRecOn with
  | nil => exact ⟨rfl, rfl⟩
  | append_singleton calls entry ih =>
    rw [List.forall_mem_append, List.forall_mem_singleton] at representable
    have before : promised lexicon calls <+: promised lexicon (calls ++ [entry]) :=
      promised_isPrefix (List.prefix_append _ _)
    obtain ⟨same, accepted⟩ := ih representable.1 fun entry member =>
      encodable entry (before.mem member)
    have now := sound_run sound representable.1
    rw [same] at now
    rw [run_concat, kept_concat, step, accepted, same]
    rw [promised_concat] at encodable ⊢
    by_cases admissible : entry.Admissible lexicon (promised lexicon calls)
    · rw [promise, if_pos admissible] at encodable ⊢
      have unbroken := encodable entry (by simp)
      rw [keep, if_pos admissible, if_pos unbroken, if_pos (now.isOk_iff.2 ⟨admissible, unbroken⟩)]
      exact ⟨rfl, rfl⟩
    · rw [promise, keep, if_neg admissible, if_neg admissible,
        if_neg fun accepted => admissible (now.isOk_iff.1 accepted).1]
      exact ⟨rfl, rfl⟩

/-- An addition does what it should if everything that should be admitted so far is encodable. -/
theorem keeps_of_encodable (sound : Sound path lexicon start [])
    (representable : ∀ added ∈ calls ++ [entry], added.toText.Representable)
    (encodable : ∀ added ∈ promised lexicon (calls ++ [entry]), added.Encodable) :
    (run path lexicon start calls).Keeps path lexicon entry := by
  obtain ⟨sameNext, acceptedNext⟩ := agree sound representable encodable
  have next := sound_run sound representable
  rw [List.forall_mem_append, List.forall_mem_singleton] at representable
  have before : promised lexicon calls <+: promised lexicon (calls ++ [entry]) :=
    promised_isPrefix (List.prefix_append _ _)
  obtain ⟨same, accepted⟩ := agree sound representable.1 fun added member =>
    encodable added (before.mem member)
  have now := sound_run sound representable.1
  rw [same] at now
  have unbroken (admissible : entry.Admissible lexicon (promised lexicon calls)) :
      entry.Encodable := by
    refine encodable entry ?_
    rw [promised_concat, promise, if_pos admissible]
    simp
  have isOk : ((Session.addEntry path entry (some lexicon)).on
      (run path lexicon start calls).workspace).1.isOk = true ↔
        entry.Admissible lexicon (promised lexicon calls) := by
    rw [now.isOk_iff, and_iff_left_of_imp unbroken]
  refine ⟨by rw [isOk, accepted], fun refused => (now.refused ?_).2, ?_⟩
  · rw [← isOk, refused]
    simp
  · rw [sameNext, ← acceptedNext, run_concat] at next
    exact next.loaded

/-- Conversely, an addition of an entry with a surrogate that should be admitted does not do what it
should. -/
theorem encodable_of_keeps (sound : Sound path lexicon start [])
    (representable : ∀ entry ∈ calls, entry.toText.Representable)
    (keeps : ∀ earlier entry, earlier ++ [entry] <+: calls →
      (run path lexicon start earlier).Keeps path lexicon entry) :
    ∀ entry ∈ promised lexicon calls, entry.Encodable := by
  induction calls using List.reverseRecOn with
  | nil => simp [promised]
  | append_singleton calls entry ih =>
    rw [List.forall_mem_append, List.forall_mem_singleton] at representable
    have encodable := ih representable.1 fun earlier entry here =>
      keeps earlier entry (here.trans (List.prefix_append _ _))
    obtain ⟨same, accepted⟩ := agree sound representable.1 encodable
    have now := sound_run sound representable.1
    have accepts := (keeps calls entry (List.prefix_refl _)).accepts
    rw [promised_concat, promise]
    split
    · next admissible =>
      rw [List.forall_mem_append, List.forall_mem_singleton]
      rw [accepted] at accepts
      exact ⟨encodable, (now.isOk_iff.1 (accepts.2 admissible)).2⟩
    · exact encodable

end History

/-- Additions of representable entries to an absent dictionary. All of them do what they should
exactly if no entry that should be admitted holds a surrogate. In any case an addition is accepted
exactly if its entry is admissible and encodable, it changes no file if the entry is not admissible,
and it leaves the file empty if the entry is admissible and not encodable; after it the dictionary
holds the entries that were kept, and they clash with no higher tier. -/
theorem dictionary_history_iff (path : Path) (library : Glossary RawText) (start : Workspace)
    (absent : start.tree.lookup path = .ok none)
    (writable : ∃ text, ((Session.writeText path text).on start).1 = .ok ())
    (calls : List (Entry RawText))
    (representable : ∀ entry ∈ calls, entry.toText.Representable) :
    let lexicon := Lexicon.ofLibrary Keyword.glossary.raw library
    ((∀ earlier entry, earlier ++ [entry] <+: calls →
        (History.run path lexicon start earlier).Keeps path lexicon entry) ↔
      ∀ entry ∈ History.promised lexicon calls, entry.Encodable) ∧
    ∀ earlier entry, earlier ++ [entry] <+: calls →
      let before := History.run path lexicon start earlier
      let entries := History.kept lexicon earlier
      let call := (Session.addEntry path entry (some lexicon)).on before.workspace
      (call.1.isOk = true ↔ entry.Admissible lexicon entries ∧ entry.Encodable) ∧
        (¬entry.Admissible lexicon entries → call.2.tree = before.workspace.tree) ∧
        (entry.Admissible lexicon entries → ¬entry.Encodable →
          (∃ found, call.1 = .error (.unencodable found)) ∧ call.2.tree.read path = .ok []) ∧
        ∃ tier : Glossary, ((Session.loadProject path true).on call.2).1 = .ok tier ∧
          tier.raw.entries = History.kept lexicon (earlier ++ [entry]) ∧
          ∃ developer, Lexicon.ofTiers Keyword.glossary.raw library tier.raw = .ok developer := by
  intro lexicon
  have sound : History.Sound path lexicon start [] := .start absent writable
  have asked {part : List (Entry RawText)} (early : part <+: calls) :
      ∀ entry ∈ part, entry.toText.Representable :=
    fun entry member => representable entry (early.mem member)
  refine ⟨⟨History.encodable_of_keeps sound representable, fun encodable earlier entry here =>
    History.keeps_of_encodable sound (asked here) fun added member =>
      encodable added ((History.promised_isPrefix here).mem member)⟩, fun earlier entry here => ?_⟩
  have now := History.sound_run sound (asked ((List.prefix_append _ _).trans here))
  have next := History.sound_run sound (asked here)
  rw [History.run_concat] at next
  refine ⟨now.isOk_iff, fun inadmissible => (now.refused inadmissible).2,
    fun admissible broken => ?_, next.loaded⟩
  obtain ⟨failed, place, stored⟩ := now.emptied admissible broken
  exact ⟨failed, stored.read⟩

/-- Of five entries one repeats a symbol, one is a keyword and the fourth holds a surrogate; only
the fifth is in the dictionary. -/
theorem dictionary_history_five :
    let library := smallLexicon.library.raw
    let lexicon := Lexicon.ofLibrary Keyword.glossary.raw library
    let earlier : List (Entry RawText) :=
      [Entry.raw ⟨['ש', 'ם'], "a# b".toList⟩, Entry.raw ⟨['ש', 'ם'], ['n']⟩,
        Entry.raw ⟨['ס', 'ך'], ['i', 'f']⟩, ⟨[.surrogate 0x4FF], Text.raw ['x']⟩]
    let entry := Entry.raw ⟨['ס', 'ך'], "sum:of".toList⟩
    let before := History.run dictPath lexicon { tree := .empty } earlier
    let call := (Session.addEntry dictPath entry (some lexicon)).on before.workspace
    (∀ added ∈ earlier ++ [entry], added.toText.Representable) ∧
      ¬(∀ part next, part ++ [next] <+: earlier ++ [entry] →
        (History.run dictPath lexicon { tree := .empty } part).Keeps dictPath lexicon next) ∧
      call.1.isOk = true ∧
      ∃ tier : Glossary, ((Session.loadProject dictPath true).on call.2).1 = .ok tier ∧
        tier.raw.entries = [entry] := by
  intro library lexicon earlier entry before call
  have representable : ∀ added ∈ earlier ++ [entry], added.toText.Representable := by
    decide +kernel
  have broken : ¬∀ added ∈ History.promised lexicon (earlier ++ [entry]), added.Encodable := by
    decide +kernel
  have kept : History.kept lexicon (earlier ++ [entry]) = [entry] := by decide +kernel
  have accepted : entry.Admissible lexicon (History.kept lexicon earlier) ∧ entry.Encodable := by
    decide +kernel
  obtain ⟨iff, each⟩ := dictionary_history_iff dictPath library { tree := .empty } rfl ⟨[], rfl⟩
    (earlier ++ [entry]) representable
  obtain ⟨isOk, -, -, tier, loaded, same, -⟩ := each earlier entry (List.prefix_refl _)
  exact ⟨representable, fun keeps => broken (iff.1 keeps), isOk.2 accepted, tier, loaded,
    same.trans kept⟩

/-- A surrogate in a localized symbol: the entry is admissible and is refused, and the entry before
it is lost. -/
theorem dictionary_history_emptied :
    let lexicon := Lexicon.ofLibrary Keyword.glossary.raw .empty
    let first := Entry.raw ⟨['a'], ['b']⟩
    let entry : Entry RawText := ⟨[.surrogate 0x4FF], Text.raw ['x']⟩
    let before := History.run dictPath lexicon { tree := .empty } [first]
    let call := (Session.addEntry dictPath entry (some lexicon)).on before.workspace
    first.toText.Representable ∧ entry.toText.Representable ∧ before.accepted = [first] ∧
      entry.Admissible lexicon before.accepted ∧ call.1.isOk = false ∧
      (call.2.tree.read dictPath).toOption = some [] ∧
      ((Session.loadProject dictPath true).on call.2).1.toOption.map Glossary.entries =
        some [] := by
  decide +kernel

end Diglot
