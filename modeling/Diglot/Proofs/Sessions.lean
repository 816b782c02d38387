import Diglot.Proofs.EncodedText
import Diglot.Proofs.FileTrees
import Diglot.Workspace.Dictionary
import Diglot.Workspace.Source

/-!
# What sessions do

What a session answers and how it changes the files never depends on what was recorded before it
(`Session.Does`). Each session has one lemma that says what it does, and a session that is put
together does what its parts do, one after the other. Loading a lexicon changes no file.
-/

set_option autoImplicit false

namespace Diglot

theorem mapError_eq_ok_iff {ε δ α : Type} {answer : Except ε α} {f : ε → δ} {value : α} :
    answer.mapError f = .ok value ↔ answer = .ok value := by
  cases answer <;> simp [Except.mapError]

theorem map_eq_ok_iff {ε α β : Type} {answer : Except ε α} {f : α → β} {value : β} :
    answer.map f = .ok value ↔ ∃ found, answer = .ok found ∧ f found = value := by
  cases answer <;> simp [Except.map]

theorem eq_ok_of_toOption {ε α : Type} {answer : Except ε α} {value : α}
    (found : answer.toOption = some value) : answer = .ok value := by
  cases answer <;> simp_all [Except.toOption]

def FileTree.text (tree : FileTree) (path : Path) : Except Fault Text := do
  let contents ← (tree.read path).mapError (.file · path)
  let text ← (Text.Utf8.decode contents).mapError .malformed
  return Text.withNewlines text

theorem FileTree.text_eq_ok_iff {tree : FileTree} {path : Path} {text : Text} :
    tree.text path = .ok text ↔
      ∃ contents decoded, tree.read path = .ok contents ∧
        Text.Utf8.decode contents = .ok decoded ∧ text = Text.withNewlines decoded := by
  rw [FileTree.text]
  cases tree.read path with
  | error obstacle => simp [bind, Except.bind, Except.mapError]
  | ok contents =>
    cases decodes : Text.Utf8.decode contents with
    | error malformed => simp [bind, Except.bind, Except.mapError, decodes]
    | ok decoded =>
      simp [bind, Except.bind, Except.mapError, pure, Except.pure, decodes, eq_comm]

/-- The project tier of the file at a path; an absent file is an empty tier. -/
def FileTree.project (tree : FileTree) (path : Path) : Except Fault Glossary := do
  match ← (tree.lookup path).mapError (.file · path) with
  | none => return .empty
  | some _ =>
    let text ← tree.text path
    (Glossary.ofEntries (Dictionary.entries text)).mapError (.dictionary path <| .duplicate ·)

/-- The project tier of the file at a path with one more entry at its end, or why the entry may not
join it. -/
def FileTree.extended (tree : FileTree) (path : Path) (entry : Entry RawText)
    (lexicon : Option (Lexicon RawText)) : Except Fault (Glossary RawText) := do
  let existing ← tree.project path
  let incoming ← (Glossary.ofEntries [entry]).mapError (.conflict · .none)
  let merged ← (existing.raw.merge incoming).mapError
    (.conflict · ⟨path.toText, Session.newEntryLabel⟩)
  match lexicon.bind fun lexicon =>
    Lexicon.firstClash lexicon.keywords lexicon.library incoming with
  | some clash => throw (.clash clash)
  | none => return merged

def FileTree.Preparation.answer (prepared : FileTree.Preparation) : Except Fault Unit :=
  match prepared.failure with
  | none => .ok ()
  | some (obstacle, path) => .error (.file obstacle path)

theorem FileTree.Preparation.answer_eq_ok_iff {prepared : FileTree.Preparation} :
    prepared.answer = .ok () ↔ prepared.failure = none := by
  rw [answer]
  split <;> simp_all

/-- What writing a raw text leaves in its file: the bytes, or nothing if there are none. -/
def RawText.written (text : RawText) : Bytes :=
  match Text.Utf8.encodeRaw text with
  | .ok contents => contents
  | .error _ => []

/-- The answer to writing a raw text, which is encoded once its file could be stored. -/
def FileTree.Preparation.answerTo (prepared : FileTree.Preparation) (text : RawText) :
    Except Fault Unit := do
  prepared.answer
  let _ ← (Text.Utf8.encodeRaw text).mapError .unencodable

namespace Session

variable {α β : Type} {session : Session α} {next : α → Session β} {tree middle after : FileTree}
  {value : α} {fault : Fault} {workspace : Workspace} {path : Path}

theorem on_bind (session : Session α) (next : α → Session β) (workspace : Workspace) :
    (session >>= next).on workspace =
      match session.on workspace with
      | (.ok value, later) => (next value).on later
      | (.error fault, later) => (.error fault, later) := by
  rcases run : session.on workspace with ⟨_ | _, later⟩
  all_goals
    simp only [on, ExceptT.run_bind, StateT.run_bind] at run ⊢
    rw [run]
    rfl

/-- On a tree, a session gives an answer and leaves a tree behind, whatever was recorded before. -/
def Does (session : Session α) (tree : FileTree) (answer : Except Fault α) (after : FileTree) :
    Prop :=
  ∀ workspace : Workspace, workspace.tree = tree →
    (session.on workspace).1 = answer ∧ (session.on workspace).2.tree = after

theorem Does.run {answer : Except Fault α} (does : session.Does tree answer after)
    (same : workspace.tree = tree) :
    ∃ later, session.on workspace = (answer, later) ∧ later.tree = after :=
  ⟨_, Prod.ext (does workspace same).1 rfl, (does workspace same).2⟩

theorem does_pure (value : α) : (pure value : Session α).Does tree (.ok value) tree :=
  fun _ same => ⟨rfl, same⟩

theorem does_throw (fault : Fault) : (throw fault : Session α).Does tree (.error fault) tree :=
  fun _ same => ⟨rfl, same⟩

theorem does_record (event : Event) : (record event).Does tree (.ok ()) tree :=
  fun _ same => ⟨rfl, same⟩

theorem does_put (text : Text) : (put text).Does tree (.ok ()) tree :=
  fun _ same => ⟨rfl, same⟩

theorem does_replace (larger : FileTree) :
    (modify fun workspace => { workspace with tree := larger } : Session Unit).Does tree (.ok ())
      larger :=
  fun _ _ => ⟨rfl, rfl⟩

theorem does_tree : Session.tree.Does tree (.ok tree) tree :=
  fun _ same => ⟨congrArg Except.ok same, same⟩

theorem Does.bind {answer : Except Fault β} (first : session.Does tree (.ok value) middle)
    (second : (next value).Does middle answer after) :
    (session >>= next).Does tree answer after := by
  intro workspace same
  obtain ⟨later, run, left⟩ := first.run same
  rw [on_bind, run]
  exact second later left

theorem Does.bind_error (first : session.Does tree (.error fault) after) :
    (session >>= next).Does tree (.error fault) after := by
  intro workspace same
  obtain ⟨later, run, left⟩ := first.run same
  rw [on_bind, run]
  exact ⟨rfl, left⟩

/-- Sessions that leave the tree as it is answer one after the other. -/
theorem Does.andThen {answer : Except Fault α} {onward : α → Except Fault β}
    (first : session.Does tree answer tree)
    (second : ∀ value, (next value).Does tree (onward value) tree) :
    (session >>= next).Does tree (answer >>= onward) tree := by
  cases answer with
  | ok value => exact first.bind (second value)
  | error fault => exact first.bind_error

theorem on_attempt (session : Session α) (workspace : Workspace) :
    (attempt session).on workspace =
      match session.on workspace with
      | (.ok value, later) => (.ok (.ok value), later)
      | (.error fault, later) =>
        (if fault.isReported then .ok (.error fault) else .error fault, later) := by
  rcases run : session.on workspace with ⟨_ | _, later⟩
  all_goals
    simp only [on, attempt, ExceptT.run_mk, StateT.run_bind] at run ⊢
    rw [run]
    rfl

theorem Does.attempt_ok (does : session.Does tree (.ok value) after) :
    (attempt session).Does tree (.ok (.ok value)) after := by
  intro workspace same
  obtain ⟨later, run, left⟩ := does.run same
  rw [on_attempt, run]
  exact ⟨rfl, left⟩

theorem Does.attempt_error (does : session.Does tree (.error fault) after) :
    (attempt session).Does tree
      (if fault.isReported then .ok (.error fault) else .error fault) after := by
  intro workspace same
  obtain ⟨later, run, left⟩ := does.run same
  rw [on_attempt, run]
  exact ⟨rfl, left⟩

/-! ## Files -/

theorem does_nodeAt? (path : Path) :
    (nodeAt? path).Does tree ((tree.lookup path).mapError (.file · path)) tree := by
  refine does_tree.bind ?_
  cases tree.lookup path with
  | ok node => exact does_pure node
  | error obstacle => exact does_throw _

theorem does_readBytes (path : Path) :
    (readBytes path).Does tree ((tree.read path).mapError (.file · path)) tree := by
  refine does_tree.bind ?_
  cases tree.read path with
  | ok contents => exact does_pure contents
  | error obstacle => exact does_throw _

theorem does_readText (path : Path) : (readText path).Does tree (tree.text path) tree := by
  refine (does_readBytes path).andThen fun contents => ?_
  cases Text.Utf8.decode contents with
  | ok text => exact does_pure _
  | error malformed => exact does_throw _

/-- Where every file of a list can be read, their texts are read. -/
theorem does_readTexts {files : List Path}
    (readable : ∀ path ∈ files, ∃ text, tree.text path = .ok text) :
    ∃ texts, (files.mapM readText).Does tree (.ok texts) tree ∧
      ∀ text, text ∈ texts ↔ ∃ path ∈ files, tree.text path = .ok text := by
  induction files with
  | nil => exact ⟨[], does_pure [], by simp⟩
  | cons path files ih =>
    obtain ⟨first, read⟩ := readable path (by simp)
    obtain ⟨texts, others, members⟩ := ih fun other member => readable other (by simp [member])
    have reads : (readText path).Does tree (tree.text path) tree := does_readText path
    rw [read] at reads
    refine ⟨first :: texts, ?_, ?_⟩
    · rw [List.mapM_cons]
      exact reads.bind (others.bind (does_pure _))
    · intro text
      rw [List.mem_cons, List.exists_mem_cons_iff, members, read, Except.ok.injEq, eq_comm]

theorem does_convertFile (lexicon : Lexicon) (path : Path) (source : Option Mode) (target : Mode) :
    (convertFile lexicon path source target).Does tree
      ((tree.text path).map (convert lexicon (source.getD (Mode.ofPath path)) target)) tree := by
  have reads : (readText path).Does tree (tree.text path) tree := does_readText path
  cases text : tree.text path with
  | error fault => exact (text ▸ reads).bind_error
  | ok text' => exact (text ▸ reads).bind (does_pure _)

theorem does_writeBytes (path : Path) (contents : Bytes) :
    (writeBytes path contents).Does tree (tree.store path contents).answer
      (tree.store path contents).tree := by
  refine does_tree.bind ((does_replace _).bind ?_)
  rw [FileTree.store]
  cases failure : (tree.ensureDirectories path.parent).failure with
  | some obstacle =>
    simp only [failure, Option.isSome_some, if_true, FileTree.Preparation.answer]
    exact does_throw _
  | none =>
    simp only [Option.isSome_none, Bool.false_eq_true, if_false]
    cases (tree.ensureDirectories path.parent).tree.write path contents with
    | error obstacle => exact does_throw _
    | ok written => exact does_replace written

theorem does_writeText (path : Path) (text : RawText) :
    let stored := tree.store path text.written
    (writeText path text).Does tree (stored.answerTo text) stored.tree := by
  intro stored
  have writes : (writeBytes path text.written).Does tree stored.answer stored.tree :=
    does_writeBytes path _
  rw [RawText.written] at writes
  rw [writeText, FileTree.Preparation.answerTo]
  cases encoded : Text.Utf8.encodeRaw text with
  | ok contents =>
    rw [encoded] at writes
    cases done : stored.answer with
    | error fault => rwa [done] at writes
    | ok => rwa [done] at writes
  | error found =>
    rw [encoded] at writes
    cases done : stored.answer with
    | error fault => exact (done ▸ writes).bind_error
    | ok => exact (done ▸ writes).bind (does_throw _)

theorem does_writeText_raw (path : Path) (text : Text) :
    let stored := tree.store path (Text.Utf8.encode text)
    (writeText path text.raw).Does tree stored.answer stored.tree := by
  intro stored
  rw [writeText, Text.Utf8.encodeRaw_raw]
  exact does_writeBytes path _

/-! ## Project dictionaries -/

theorem does_parseProject (text : Text) :
    (parseProject text).Does tree (.ok (Dictionary.entries text)) tree := by
  rw [parseProject]
  split
  · exact (does_record _).bind (does_pure _)
  · split
    · exact (does_record _).bind (does_pure _)
    · exact does_pure _

theorem does_loadProject (path : Path) :
    (loadProject path true).Does tree (tree.project path) tree := by
  refine (does_nodeAt? path).andThen fun node => ?_
  cases node with
  | none => exact (does_record _).bind (does_pure _)
  | some node =>
    refine (does_readText path).andThen fun text => ?_
    refine (does_parseProject text).bind ?_
    rw [glossaryOf]
    cases Glossary.ofEntries (Dictionary.entries text) with
    | error conflict => exact (does_throw _).bind_error
    | ok glossary => exact (does_pure _).bind ((does_record _).bind (does_pure _))

theorem does_writeEntries (path : Path) (merged : Glossary RawText) (entry : Entry RawText) :
    let text := Dictionary.renderRaw merged.entries
    let stored := tree.store path text.written
    (do
      writeText path text
      record (.entryAdded entry path)
      return merged : Session (Glossary RawText)).Does tree
        ((stored.answerTo text).map fun _ => merged) stored.tree := by
  intro text stored
  have writes : (writeText path text).Does tree (stored.answerTo text) stored.tree :=
    does_writeText path text
  cases done : stored.answerTo text with
  | error fault => exact (done ▸ writes).bind_error
  | ok => exact (done ▸ writes).bind ((does_record _).bind (does_pure _))

theorem does_strictGlossary (entries : List (Entry RawText)) :
    (strictGlossary id entries).Does tree
      ((Glossary.ofEntries entries).mapError (.conflict · .none)) tree := by
  rw [strictGlossary]
  cases Glossary.ofEntries entries with
  | error conflict => exact does_throw _
  | ok glossary => exact does_pure _

theorem does_checkEntry (lexicon : Lexicon RawText) (incoming : Glossary RawText) :
    (checkEntry lexicon incoming).Does tree
      (match Lexicon.firstClash lexicon.keywords lexicon.library incoming with
        | some clash => .error (.clash clash)
        | none => .ok ()) tree := by
  rw [checkEntry]
  cases Lexicon.firstClash lexicon.keywords lexicon.library incoming with
  | some clash => exact does_throw _
  | none => exact does_pure ()

/-- An entry that may join a project tier is put at its end and the dictionary is written anew;
otherwise nothing is written. -/
theorem does_addEntry (tree : FileTree) (path : Path) (entry : Entry RawText)
    (lexicon : Option (Lexicon RawText)) :
    match tree.extended path entry lexicon with
    | .error fault => (addEntry path entry lexicon).Does tree (.error fault) tree
    | .ok merged =>
      let text := Dictionary.renderRaw merged.entries
      let stored := tree.store path text.written
      (addEntry path entry lexicon).Does tree ((stored.answerTo text).map fun _ => merged)
        stored.tree := by
  have loads : (loadProject path true).Does tree (tree.project path) tree := does_loadProject path
  have joins : (strictGlossary id [entry]).Does tree _ tree := does_strictGlossary [entry]
  rw [FileTree.extended, addEntry]
  cases loaded : tree.project path with
  | error fault => exact (loaded ▸ loads).bind_error
  | ok existing =>
    rw [loaded] at loads
    cases single : Glossary.ofEntries [entry] with
    | error conflict => exact loads.bind (single ▸ joins).bind_error
    | ok incoming =>
      rw [single] at joins
      dsimp only [bind, Except.bind, Except.mapError]
      cases merges : existing.raw.merge incoming with
      | error conflict =>
        refine loads.bind (joins.bind ?_)
        rw [merges]
        exact does_throw _
      | ok merged =>
        have writes : Does _ tree _ _ := does_writeEntries path merged entry
        cases lexicon with
        | none =>
          refine loads.bind (joins.bind ?_)
          rw [merges]
          exact writes
        | some lexicon =>
          have checks : Does _ tree _ tree := does_checkEntry lexicon incoming
          dsimp only [Option.bind_some]
          cases clashes : Lexicon.firstClash lexicon.keywords lexicon.library incoming with
          | some clash =>
            refine loads.bind (joins.bind ?_)
            rw [merges]
            rw [clashes] at checks
            exact checks.bind_error
          | none =>
            refine loads.bind (joins.bind ?_)
            rw [merges]
            rw [clashes] at checks
            exact checks.bind writes

/-! ## Lexicons -/

def ReadsOnly (session : Session α) : Prop :=
  ∀ tree, ∃ answer, session.Does tree answer tree

theorem readsOnly_pure (value : α) : (pure value : Session α).ReadsOnly :=
  fun _ => ⟨_, does_pure value⟩

theorem readsOnly_throw (fault : Fault) : (throw fault : Session α).ReadsOnly :=
  fun _ => ⟨_, does_throw fault⟩

theorem readsOnly_record (event : Event) : (record event).ReadsOnly :=
  fun _ => ⟨_, does_record event⟩

theorem ReadsOnly.bind (first : session.ReadsOnly) (second : ∀ value, (next value).ReadsOnly) :
    (session >>= next).ReadsOnly := by
  intro tree
  obtain ⟨answer, does⟩ := first tree
  cases answer with
  | error fault => exact ⟨_, does.bind_error⟩
  | ok value =>
    obtain ⟨onward, does'⟩ := second value tree
    exact ⟨onward, does.bind does'⟩

/-- What a session that changes no file answers once, it answers whenever the files are the same. -/
theorem ReadsOnly.does (reads : session.ReadsOnly)
    (answered : (session.on workspace).1 = .ok value) :
    session.Does workspace.tree (.ok value) workspace.tree := by
  obtain ⟨answer, does⟩ := reads workspace.tree
  rw [← answered, (does workspace rfl).1]
  exact does

theorem readsOnly_glossaryOf (path : Path) (entries : List Entry) :
    (glossaryOf path entries).ReadsOnly := by
  rw [glossaryOf]
  split
  · exact readsOnly_pure _
  · exact readsOnly_throw _

theorem readsOnly_readText (path : Path) : (readText path).ReadsOnly :=
  fun _ => ⟨_, does_readText path⟩

theorem readsOnly_forM {item : Type} (items : List item) {each : item → Session PUnit}
    (reads : ∀ item, (each item).ReadsOnly) : (items.forM each).ReadsOnly := by
  induction items with
  | nil => exact readsOnly_pure _
  | cons item items ih => exact (reads item).bind fun _ => ih

theorem readsOnly_mapM {each : α → Session β} (reads : ∀ item, (each item).ReadsOnly)
    (items : List α) : (items.mapM each).ReadsOnly := by
  induction items with
  | nil => exact readsOnly_pure []
  | cons item items ih =>
    rw [List.mapM_cons]
    exact (reads item).bind fun _ => ih.bind fun _ => readsOnly_pure _

theorem readsOnly_gatherText (glossary : Glossary) (text : Text) :
    (gatherText glossary text).ReadsOnly :=
  (readsOnly_forM _ fun _ => readsOnly_record _).bind fun _ => readsOnly_pure _

theorem readsOnly_gatherFiles (glossary : Glossary) (paths : List Path) :
    (gatherFiles glossary paths).ReadsOnly := by
  induction paths generalizing glossary with
  | nil => exact readsOnly_pure _
  | cons path paths ih =>
    exact (readsOnly_readText path).bind fun text =>
      (readsOnly_gatherText glossary text).bind fun larger => ih larger

theorem readsOnly_loadLibrary (path : Path) : (loadLibrary path).ReadsOnly := by
  refine ReadsOnly.bind (fun _ => ⟨_, does_nodeAt? path⟩) fun node => ?_
  match node with
  | none => exact (readsOnly_record _).bind fun _ => readsOnly_pure _
  | some .directory =>
    exact ReadsOnly.bind (fun _ => ⟨_, does_tree⟩) fun tree =>
      (readsOnly_gatherFiles _ _).bind fun _ => (readsOnly_record _).bind fun _ => readsOnly_pure _
  | some (.file _) =>
    dsimp only
    split
    · refine ReadsOnly.bind (fun _ => ⟨_, does_readBytes path⟩) fun contents => ?_
      split
      · exact readsOnly_throw _
      · exact readsOnly_glossaryOf _ _
    · exact (readsOnly_readText path).bind fun text => readsOnly_gatherText _ text

theorem readsOnly_developerLexicon (library project : Glossary) :
    (developerLexicon library project).ReadsOnly := by
  rw [developerLexicon]
  split
  · exact readsOnly_throw _
  · exact (readsOnly_record _).bind fun _ => readsOnly_pure _

/-- Loading a lexicon changes no file. -/
theorem readsOnly_loadLexicon (dictionary library : Setting Path) :
    (loadLexicon dictionary library).ReadsOnly := by
  have symbols : (loadLibrarySetting library).ReadsOnly := by
    cases library with
    | absent => exact readsOnly_pure _
    | void => exact readsOnly_throw _
    | value path => exact readsOnly_loadLibrary path
  refine symbols.bind fun symbols => ?_
  cases dictionary with
  | absent => exact (readsOnly_record _).bind fun _ => readsOnly_pure _
  | void => exact readsOnly_throw _
  | value path =>
    exact ReadsOnly.bind (fun _ => ⟨_, does_loadProject path⟩) fun project =>
      readsOnly_developerLexicon symbols project

end Session

end Diglot
