import Diglot.Command.Run
import Diglot.Proofs.Sessions

/-!
# Results of several conversions

With several inputs the convert command puts each result into a directory, under the stem of its
input. A run goes through the inputs one after another (`Converts`), so a result can be overwritten
by a later one, and an input by an earlier result. Only inputs with the same stem get into each
other's way: all results are kept exactly if inputs with the same stem have the same result
(`results_kept_iff`).
-/

set_option autoImplicit false

namespace Diglot

/-! ## Stems -/

namespace Path

variable {path other : Path} {stem extension : Text}

theorem name_child (path : Path) (name : Text) : (path.child name).name = name := by
  simp [child, Path.name]

/-- A stem with a dot and an extension behind it is cut before that dot. -/
theorem cutSuffix_append (filled : stem ≠ []) (some : extension ≠ []) (noDot : '.' ∉ extension) :
    cutSuffix (stem ++ '.' :: extension) = (stem, '.' :: extension) := by
  have ending : ((stem ++ '.' :: extension).reverse.takeWhile (· != '.')).reverse = extension := by
    have undotted : ∀ c ∈ extension.reverse, (c != '.') = true := by
      intro c member
      rw [bne_iff_ne]
      rintro rfl
      exact noDot (List.mem_reverse.1 member)
    rw [List.reverse_append, List.reverse_cons, List.append_assoc,
      List.takeWhile_append_of_pos undotted]
    simp
  have front : (stem ++ '.' :: extension).length - extension.length - 1 = stem.length := by
    rw [List.length_append, List.length_cons]
    omega
  simp only [cutSuffix, ending, front, List.take_left]
  rw [if_neg (by simp [filled, some])]

/-- A name is cut into a stem that is not empty. -/
theorem stem_ne_nil (named : path.name ≠ []) : path.stem ≠ [] := by
  simp only [Path.stem, cutSuffix]
  split
  · exact named
  · next cut =>
    simp only [Bool.or_eq_true, List.isEmpty_iff, not_or] at cut
    exact cut.2

/-- The stem of a result is that of its input. -/
theorem stem_of_name {target : Mode} (filled : path.stem ≠ [])
    (name : other.name = path.stem ++ target.suffix) : other.stem = path.stem := by
  obtain ⟨extension, dotted, some, noDot⟩ : ∃ extension, target.suffix = '.' :: extension ∧
      extension ≠ [] ∧ '.' ∉ extension := by
    cases target <;> exact ⟨_, rfl, by decide, by decide⟩
  have cut := cutSuffix_append filled some noDot
  rw [← dotted, ← name] at cut
  rw [Path.stem, cut]

/-- No name of a path that was read is empty. -/
theorem name_ofText_ne_nil {text : Text} (named : (ofText text).parts ≠ []) :
    (ofText text).name ≠ [] := by
  rw [Path.name, List.getLast?_eq_some_getLast named, Option.getD_some]
  have member := List.getLast_mem named
  have kept := (List.mem_filter.1 member).2
  simp only [Bool.and_eq_true, Bool.not_eq_true', List.isEmpty_eq_false_iff] at kept
  exact kept.1

end Path

namespace FileTree

variable {tree after : FileTree} {path other : Path} {contents : Bytes} {place : Place}
  {text : Text}

theorem Stored.text_other (stored : tree.Stored after path contents place)
    (readable : tree.text other = .ok text) (apart : after.locate other ≠ .ok place) :
    after.text other = .ok text := by
  obtain ⟨contents, decoded, read, decodes⟩ := text_eq_ok_iff.1 readable
  exact text_eq_ok_iff.2 ⟨contents, decoded, stored.read_other read apart, decodes⟩

end FileTree

namespace Command.Convert

/-! ## One input after another -/

section Order

variable {directory path : Path} {target : Mode} {tree middle after : FileTree}
  {produce : Path → Text → Text} {paths : List Path}

/-- What a run that converts every input does to the files: each is read, and its result is stored
before the next one is read. -/
inductive Converts (directory : Path) (target : Mode) (produce : Path → Text → Text) :
    FileTree → List Path → FileTree → Prop
  | done (tree : FileTree) : Converts directory target produce tree [] tree
  | next {tree middle after : FileTree} {path : Path} {paths : List Path} {text : Text}
      {place : Place} (read : tree.text path = .ok text)
      (stored : tree.Stored middle (resultIn directory target path)
        (Text.Utf8.encode (produce path text)) place)
      (rest : Converts directory target produce middle paths after) :
      Converts directory target produce tree (path :: paths) after

theorem Converts.keepsDirectories (run : Converts directory target produce tree paths after) :
    tree.KeepsDirectories after := by
  induction run with
  | done tree => exact fun _ there => there
  | next read stored rest ih => exact stored.keepsDirectories.trans ih

/-- A result can only be where a file with the stem of its input is. -/
theorem stem_of_locate {other : Path} {contents : Bytes} {place : Place} (filled : path.stem ≠ [])
    (stored : tree.Stored after (resultIn directory target path) contents place)
    (located : after.locate other = .ok place) : other.stem = path.stem := by
  have name := stored.name_of_locate located
  rw [resultIn, Path.name_child] at name
  exact Path.stem_of_name filled name

/-- A later input is read as it was if the result before it is not put in its place. -/
theorem text_after {other : Path} {contents : Bytes} {place : Place} {text : Text}
    (filled : path.stem ≠ [])
    (stored : tree.Stored middle (resultIn directory target path) contents place)
    (kept : middle.KeepsDirectories after) (readable : tree.text other = .ok text)
    (apart : path.stem = other.stem →
      after.locate (resultIn directory target path) ≠ after.locate other) :
    middle.text other = .ok text := by
  refine stored.text_other readable fun located => ?_
  refine apart (stem_of_locate filled stored located).symm ?_
  rw [kept.locate stored.located, kept.locate located]

/-- An earlier result is kept if its input has another stem. -/
theorem read_after {other : Path} {contents old : Bytes} {place : Place}
    (stored : tree.Stored middle (resultIn directory target path) contents place)
    (readable : tree.read (resultIn directory target other) = .ok old)
    (apart : other.stem ≠ path.stem) : middle.read (resultIn directory target other) = .ok old := by
  refine stored.read_other readable fun located => ?_
  have name := stored.name_of_locate located
  rw [resultIn, Path.name_child, resultIn, Path.name_child] at name
  exact apart (List.append_cancel_right name)

/-- The results of a run, as long as inputs with the same stem have the same result and no input is
overwritten before it is read. The induction is along the run; `earlier` are the inputs that were
converted before, whose results are there already. -/
theorem Converts.read_result (run : Converts directory target produce tree paths after)
    {texts : Path → Text} {earlier : List Path}
    (results : ∀ path ∈ earlier, tree.read (resultIn directory target path) =
      .ok (Text.Utf8.encode (produce path (texts path))))
    (inputs : ∀ path ∈ paths, tree.text path = .ok (texts path))
    (filled : ∀ path ∈ paths, path.stem ≠ [])
    (apart : paths.Pairwise fun path later => path.stem = later.stem →
      after.locate (resultIn directory target path) ≠ after.locate later)
    (alike : ∀ path ∈ earlier ++ paths, ∀ other ∈ earlier ++ paths, path.stem = other.stem →
      produce path (texts path) = produce other (texts other)) :
    ∀ path ∈ earlier ++ paths, after.read (resultIn directory target path) =
      .ok (Text.Utf8.encode (produce path (texts path))) := by
  induction run generalizing earlier with
  | done tree => simpa using results
  | @next tree middle after path paths text place read stored rest ih =>
    rw [List.forall_mem_cons] at inputs filled
    rw [List.pairwise_cons] at apart
    rw [List.append_cons] at alike ⊢
    obtain rfl : text = texts path := Except.ok.inj (read.symm.trans inputs.1)
    refine ih ?_ ?_ filled.2 apart.2 alike
    -- The new result replaces that of an earlier input only if both are the same.
    · intro other member
      by_cases same : other.stem = path.stem
      · have here := alike other (List.mem_append_left _ member) path (by simp) same
        have place : resultIn directory target other = resultIn directory target path := by
          rw [resultIn, same, resultIn]
        rw [place, stored.read, here]
      · refine read_after stored (results other ?_) same
        simpa [show other ≠ path from fun eq => same (eq ▸ rfl)] using member
    · intro other member
      exact text_after filled.1 stored rest.keepsDirectories (inputs.2 other member)
        (apart.1 other member)

end Order

/-! ## Runs of the command -/

variable {directory path : Path} {target : Mode} {paths : List Path} {request : Request}
  {lexicon : Lexicon} {several : Bool} {progress more : Progress} {workspace later : Workspace}

def Request.produce (request : Request) (lexicon : Lexicon) (target : Mode) (path : Path)
    (text : Text) : Text :=
  convert lexicon (request.source.getD (Mode.ofPath path)) target text

/-- An input that cannot be read is listed as failed, or ends the run. -/
theorem does_convertOne_of_error {tree : FileTree} {fault : Fault}
    (unread : tree.text path = .error fault) :
    ∃ entry, (convertOne request lexicon target several progress path).Does tree
      (if fault.isReported then .ok { progress with failed := progress.failed ++ [entry] }
        else .error fault) tree := by
  have converts : (Session.convertFile lexicon path
      (some (request.source.getD (Mode.ofPath path))) target).Does tree _ _ :=
    Session.does_convertFile lexicon path _ target
  rw [unread] at converts
  have tried := converts.attempt_error
  refine ⟨Json.record (("input", pathJson path) :: faultMembers fault), ?_⟩
  split
  · next reported =>
    rw [if_pos reported] at tried
    exact tried.bind ((Session.does_record _).bind (Session.does_pure _))
  · next unreported =>
    rw [if_neg unreported] at tried
    exact tried.bind_error

/-- The result of an input that can be read is stored in the directory of results. -/
theorem does_convertOne_of_ok {tree : FileTree} {text : Text}
    (output : request.output = .value directory) (read : tree.text path = .ok text) :
    let stored := tree.store (resultIn directory target path)
      (Text.Utf8.encode (request.produce lexicon target path text))
    ∃ entry, (convertOne request lexicon target true progress path).Does tree
      (stored.answer.map fun _ => { progress with written := progress.written ++ [entry] })
      stored.tree := by
  intro stored
  have converts : (Session.convertFile lexicon path
      (some (request.source.getD (Mode.ofPath path))) target).Does tree _ _ :=
    Session.does_convertFile lexicon path _ target
  rw [read] at converts
  have tried := converts.attempt_ok
  have chosen : (destination request.output true target path).Does tree
      (.ok (some (resultIn directory target path))) tree := by
    rw [output]
    exact Session.does_pure _
  have writes : (Session.writeText (resultIn directory target path)
      (request.produce lexicon target path text).raw).Does tree stored.answer stored.tree :=
    Session.does_writeText_raw _ _
  refine ⟨Json.record
    [("input", pathJson path), ("output", pathJson (resultIn directory target path)),
      ("source_mode", modeJson (request.source.getD (Mode.ofPath path))),
      ("target_mode", modeJson target)], tried.bind (chosen.bind ?_)⟩
  cases done : stored.answer with
  | error fault => exact (done ▸ writes).bind_error
  | ok => exact (done ▸ writes).bind ((Session.does_record _).bind (Session.does_pure _))

/-- An input that is not listed as failed was read, and its result was stored. -/
theorem convertOne_eq_ok (output : request.output = .value directory)
    (ran : (convertOne request lexicon target true progress path).on workspace = (.ok more, later))
    (unfailed : more.failed = []) :
    progress.failed = [] ∧ ∃ text place, workspace.tree.text path = .ok text ∧
      workspace.tree.Stored later.tree (resultIn directory target path)
        (Text.Utf8.encode (request.produce lexicon target path text)) place := by
  cases read : workspace.tree.text path with
  | error fault =>
    obtain ⟨entry, does⟩ := does_convertOne_of_error read
    have answered := (does workspace rfl).1
    rw [ran] at answered
    split at answered
    · simp [Except.ok.inj answered] at unfailed
    · cases answered
  | ok text =>
    obtain ⟨entry, does⟩ := does_convertOne_of_ok output read
    obtain ⟨answered, left⟩ := does workspace rfl
    rw [ran] at answered left
    cases done : (workspace.tree.store (resultIn directory target path)
        (Text.Utf8.encode (request.produce lexicon target path text))).answer with
    | error fault =>
      rw [done] at answered
      cases answered
    | ok =>
      rw [done] at answered
      obtain rfl := Except.ok.inj answered
      obtain ⟨place, stored⟩ :=
        FileTree.stored_of_store (FileTree.Preparation.answer_eq_ok_iff.1 done)
      refine ⟨unfailed, text, place, rfl, ?_⟩
      rw [left]
      exact stored

theorem converts_of_convertAll (output : request.output = .value directory)
    (ran : (convertAll request lexicon target true progress paths).on workspace = (.ok more, later))
    (unfailed : more.failed = []) :
    progress.failed = [] ∧ Converts directory target (request.produce lexicon target)
      workspace.tree paths later.tree := by
  induction paths generalizing progress workspace with
  | nil =>
    obtain ⟨rfl, rfl⟩ : progress = more ∧ workspace = later := by
      simpa using Prod.mk.inj (show (Except.ok progress, workspace) = _ from ran)
    exact ⟨unfailed, .done _⟩
  | cons path paths ih =>
    rw [convertAll, Session.on_bind] at ran
    split at ran
    · next between middle one =>
      obtain ⟨unfailed, rest⟩ := ih ran
      obtain ⟨unfailed, text, place, read, stored⟩ := convertOne_eq_ok output one unfailed
      exact ⟨unfailed, .next read stored rest⟩
    · cases ran

/-- What follows the conversions says whether one failed, and changes no file. -/
theorem does_finish {tree : FileTree} (progress : Progress) (listWritten : Bool) :
    (do
      if !progress.failed.isEmpty then
        report (.record [("written", .array progress.written), ("failed", .array progress.failed)])
        return 1
      if listWritten && !progress.written.isEmpty then
        report (.record [("written", .array progress.written)])
      return 0 : Session Nat).Does tree (.ok (if progress.failed.isEmpty then 0 else 1)) tree := by
  cases progress.failed.isEmpty with
  | false => exact (Session.does_put _).bind (Session.does_pure _)
  | true =>
    cases listWritten && !progress.written.isEmpty with
    | false => exact Session.does_pure _
    | true => exact (Session.does_put _).bind (Session.does_pure _)

/-- A run that ends well has converted every input with the lexicon that it loaded. -/
theorem converts_of_run {tree : FileTree} (mode : request.target = .value target)
    (output : request.output = .value directory) (several : 1 < request.paths.length)
    (ran : (run request).on { tree } = (.ok 0, later)) :
    ∃ lexicon, ((Session.loadLexicon request.dictionary request.library).on { tree }).1 =
        .ok lexicon ∧
      Converts directory target (request.produce lexicon target) tree request.paths later.tree := by
  obtain ⟨answer, loads⟩ :=
    Session.readsOnly_loadLexicon request.dictionary request.library tree
  obtain ⟨answered, left⟩ := loads { tree } rfl
  rw [run, mode] at ran
  dsimp only at ran
  rw [runTo, Session.on_bind, Session.on_attempt] at ran
  cases loaded : (Session.loadLexicon request.dictionary request.library).on { tree } with
  | mk given middle =>
    rw [loaded] at ran left
    cases given with
    | error fault =>
      cases reported : fault.isReported with
      | false => simp [reported] at ran
      | true =>
        have ended : (reportFault fault).Does middle.tree (.ok 1) middle.tree :=
          (Session.does_put _).bind (Session.does_pure _)
        have answered := (ended middle rfl).1
        simp only [reported, if_true] at ran
        simp [ran] at answered
    | ok lexicon =>
      refine ⟨lexicon, rfl, ?_⟩
      simp only [several, decide_true] at ran
      rw [Session.on_bind] at ran
      split at ran
      · next progress between converted =>
        obtain ⟨answered, tail⟩ := does_finish progress request.listWritten between rfl
        rw [ran] at answered tail
        have unfailed : progress.failed = [] := by simpa using answered
        rw [tail, ← left]
        exact (converts_of_convertAll output converted unfailed).2
      · cases ran

theorem stem_ne_nil_of_text {arguments : Arguments} {tree : FileTree} {text : Text}
    (member : path ∈ arguments.paths) (read : tree.text path = .ok text) : path.stem ≠ [] := by
  obtain ⟨contents, -, read, -⟩ := FileTree.text_eq_ok_iff.1 read
  obtain ⟨place, located, file⟩ := FileTree.read_eq_ok_iff.1 read
  have named := FileTree.parts_ne_nil_of_locate located (by simp [file])
  obtain ⟨given, -, written⟩ := List.mem_filterMap.1 member
  obtain ⟨text, -, rfl⟩ := Option.map_eq_some_iff.1 written
  exact Path.stem_ne_nil (Path.name_ofText_ne_nil named)

/-- The run behind what the tool leaves. -/
theorem on_run_of_convertTool {texts : List Text} {tree : FileTree} {arguments : Arguments}
    {outcome : Outcome} (given : grammar.read texts = .ok arguments)
    (ran : convertTool texts tree = .ok outcome) :
    ∃ later : Workspace, (run (.ofArguments arguments)).on { tree } = (.ok outcome.exit, later) ∧
      later.tree = outcome.tree := by
  rw [convertTool, given] at ran
  dsimp only [conclude] at ran
  split at ran
  · cases ran
  · next exit later same =>
    obtain rfl := Except.ok.inj ran
    exact ⟨later, same, rfl⟩

/-- Several readable inputs are converted into a directory of results, none of which is put where a
later input with the same stem is. If the run ends well, all results are kept exactly if inputs with
the same stem have the same result. -/
theorem results_kept_iff (texts : List Text) (tree : FileTree) (arguments : Arguments)
    (directory : Path) (target : Mode) (outcome : Outcome)
    (given : grammar.read texts = .ok arguments)
    (mode : arguments.mode "to" = .value target)
    (output : arguments.path "output" = .value directory)
    (several : 2 ≤ arguments.paths.length)
    (readable : ∀ path ∈ arguments.paths, ((Session.readText path).on { tree }).1.isOk = true)
    (ran : convertTool texts tree = .ok outcome) (well : outcome.exit = 0)
    (apart : arguments.paths.Pairwise fun path later => path.stem = later.stem →
      outcome.tree.locate (resultIn directory target path) ≠ outcome.tree.locate later) :
    ∃ lexicon, ((Session.loadLexicon (arguments.path "dictionary")
        (arguments.path "library")).on { tree }).1 = .ok lexicon ∧
      let converted (path : Path) : Except Fault Text :=
        ((Session.convertFile lexicon path (arguments.mode "from").toOption target).on { tree }).1
      ((∀ path ∈ arguments.paths, ∃ text, converted path = .ok text ∧
          outcome.tree.read (resultIn directory target path) = .ok (Text.Utf8.encode text)) ↔
        ∀ path ∈ arguments.paths, ∀ other ∈ arguments.paths, path.stem = other.stem →
          converted path = converted other) := by
  obtain ⟨later, ended, left⟩ := on_run_of_convertTool given ran
  rw [well] at ended
  let request := Request.ofArguments arguments
  obtain ⟨lexicon, loaded, converts⟩ := converts_of_run (show request.target = _ from mode)
    (show request.output = _ from output) several ended
  rw [left] at converts
  refine ⟨lexicon, loaded, ?_⟩
  intro converted
  let original (path : Path) : Text := (tree.text path).toOption.getD []
  have inputs : ∀ path ∈ arguments.paths, tree.text path = .ok (original path) := by
    intro path member
    have read := readable path member
    rw [(Session.does_readText path _ rfl).1] at read
    cases text : tree.text path with
    | error fault => simp [text, Except.isOk, Except.toBool] at read
    | ok text' => simp [original, text, Except.toOption]
  have results : ∀ path ∈ arguments.paths,
      converted path = .ok (request.produce lexicon target path (original path)) := by
    intro path member
    refine (Session.does_convertFile lexicon path _ target { tree } rfl).1.trans ?_
    rw [inputs path member]
    rfl
  constructor
  -- Inputs with the same stem have their results in one file, which holds only one text.
  · intro kept path member other member' same
    obtain ⟨text, converts, read⟩ := kept path member
    obtain ⟨text', converts', read'⟩ := kept other member'
    rw [resultIn, same, ← resultIn, read', Except.ok.injEq, Text.Utf8.encode_inj] at read
    rw [converts, converts', read]
  · intro alike path member
    refine ⟨_, results path member, ?_⟩
    refine converts.read_result (List.forall_mem_nil _) inputs
      (fun path member => stem_ne_nil_of_text member (inputs path member)) apart ?_ path member
    intro path member other member' same
    have result := alike path member other member' same
    rw [results path member, results other member'] at result
    exact Except.ok.inj result

/-- The files of a working directory, given by their names and texts. -/
def sourceTree (sources : List (List String × String)) : FileTree :=
  sources.foldl (fun tree (names, text) => tree.insertAt (.ofParts (names.map String.toList))
    (.file (Text.Utf8.encode text.toList))) .empty

/-- The second input is in the directory of results and is its own result. -/
theorem results_kept_two :
    let texts := ["x.swift", "out/y.gikh", "--to", "B", "-o", "out"].map String.toList
    let tree := sourceTree [(["x.swift"], "if a\r\n"), (["out", "y.gikh"], "1\n")]
    ∃ outcome lexicon, convertTool texts tree = .ok outcome ∧ outcome.exit = 0 ∧
      ∀ path ∈ ["x.swift", "out/y.gikh"].map fun given => Path.ofText given.toList, ∃ text,
        ((Session.convertFile lexicon path none .localized).on { tree }).1 = .ok text ∧
        outcome.tree.read (resultIn (.ofText "out".toList) .localized path) =
          .ok (Text.Utf8.encode text) := by
  intro texts tree
  let arguments : Arguments :=
    { positionals := [some "x.swift".toList, some "out/y.gikh".toList]
      options := [("output", some "out".toList), ("to", some "B".toList)] }
  have given : grammar.read texts = .ok arguments := eq_ok_of_toOption (by decide +kernel)
  have exits : (convertTool texts tree).toOption.map Outcome.exit = some 0 := by decide +kernel
  obtain ⟨outcome, ran, well⟩ := Option.map_eq_some_iff.1 exits
  have stems : arguments.paths.Pairwise fun path later => path.stem ≠ later.stem := by
    decide +kernel
  obtain ⟨lexicon, -, kept⟩ := results_kept_iff texts tree arguments (.ofText "out".toList)
    .localized outcome given (by decide +kernel) (by decide +kernel) (by decide +kernel)
    (by decide +kernel) (eq_ok_of_toOption ran) well
    (stems.imp fun differ same => absurd same differ)
  have single : ∀ path ∈ arguments.paths, ∀ other ∈ arguments.paths, path.stem = other.stem →
      path = other := by decide +kernel
  refine ⟨outcome, lexicon, eq_ok_of_toOption ran, well, kept.2 ?_⟩
  intro path member other member' same
  rw [single path member other member' same]

/-- Two inputs with the same stem: the result of the first is lost, and the run ends well. -/
theorem results_lost_same_stem :
    let texts :=
      ["a/x.swift", "b/x.swift", "--from", "A", "--to", "C", "-o", "out"].map String.toList
    let tree := sourceTree [(["a", "x.swift"], "1\n"), (["b", "x.swift"], "2\n")]
    let first := Path.ofText "a/x.swift".toList
    ((Session.loadLexicon .absent .absent).on { tree }).1 = .ok (.forCompilation .empty) ∧
    (convertTool texts tree).toOption.map (fun outcome => (outcome.exit,
        (outcome.tree.read (resultIn (.ofText "out".toList) .hybrid first)).toOption)) =
      some (0, some (Text.Utf8.encode "2\n".toList)) ∧
    ((Session.convertFile (.forCompilation .empty) first (some .primary) .hybrid).on
      { tree }).1.toOption = some "1\n".toList :=
  ⟨rfl, by decide +kernel⟩

end Command.Convert

end Diglot
