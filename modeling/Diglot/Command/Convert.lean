import Diglot.Command.Basic
import Diglot.Workspace.Source

/-!
# The convert command

Converts files to another mode. The results go to the output, to a single file, or into a directory
under the stem of each input. A file that cannot be read is reported and the others are still
converted.
-/

set_option autoImplicit false

namespace Diglot.Command.Convert

structure Request where
  paths : List Path
  target : Setting Mode
  source : Option Mode
  dictionary : Setting Path
  library : Setting Path
  output : Setting Path
  listWritten : Bool

def grammar : Grammar where
  options :=
    [helpOption, ⟨"to", ["--to"], modeChoices, true⟩, ⟨"from", ["--from"], modeChoices, false⟩,
     dictionaryOption, libraryOption, ⟨"output", ["-o", "--output"], .value, false⟩,
     ⟨"json", ["--json"], .flag, false⟩, verboseOption]
  positionals := .oneOrMore

def Request.ofArguments (arguments : Arguments) : Request where
  paths := arguments.paths
  target := arguments.mode "to"
  source := (arguments.mode "from").toOption
  dictionary := arguments.path "dictionary"
  library := arguments.path "library"
  output := arguments.path "output"
  listWritten := arguments.has "json"

/-- The file for an input in a directory of results: it keeps its stem and gets the suffix of the
target mode. -/
def resultIn (directory : Path) (target : Mode) (path : Path) : Path :=
  directory.child (path.stem ++ target.suffix)

/-- Where a converted file goes, if not to the output. With several inputs, or if it is there
already as a directory, the given path is a directory of results. -/
def destination (output : Setting Path) (several : Bool) (target : Mode) (path : Path) :
    Session (Option Path) := do
  match output with
  | .absent => return none
  | .void => throw (.void (if several then .outputDirectory else .outputFile))
  | .value given =>
    if several then return some (resultIn given target path)
    else match ← Session.nodeAt? given with
      | some .directory => return some (resultIn given target path)
      | _ => return some given

/-- The files that were written and those that could not be read, as the report lists them. -/
structure Progress where
  written : List Json := []
  failed : List Json := []

def convertOne (request : Request) (lexicon : Lexicon) (target : Mode) (several : Bool)
    (progress : Progress) (path : Path) : Session Progress := do
  let source := request.source.getD (Mode.ofPath path)
  match ← Session.attempt (Session.convertFile lexicon path (some source) target) with
  | .error fault =>
    Session.record (.unreadable path fault.message)
    let entry := Json.record (("input", pathJson path) :: faultMembers fault)
    return { progress with failed := progress.failed ++ [entry] }
  | .ok text =>
    match ← destination request.output several target path with
    | none =>
      Session.put text
      return progress
    | some place =>
      Session.writeText place text.raw
      Session.record (.converted path source place target)
      let entry := Json.record
        [("input", pathJson path), ("output", pathJson place), ("source_mode", modeJson source),
         ("target_mode", modeJson target)]
      return { progress with written := progress.written ++ [entry] }

def convertAll (request : Request) (lexicon : Lexicon) (target : Mode) (several : Bool)
    (progress : Progress) : List Path → Session Progress
  | [] => return progress
  | path :: paths => do
    let more ← convertOne request lexicon target several progress path
    convertAll request lexicon target several more paths

/-- Runs the command for a target; the answer is its exit code. -/
def runTo (request : Request) (target : Mode) : Session Nat := do
  match ← Session.attempt (Session.loadLexicon request.dictionary request.library) with
  | .error fault => reportFault fault
  | .ok lexicon =>
    let several := 1 < request.paths.length
    let progress ← convertAll request lexicon target several {} request.paths
    if !progress.failed.isEmpty then
      report (.record [("written", .array progress.written), ("failed", .array progress.failed)])
      return 1
    if request.listWritten && !progress.written.isEmpty then
      report (.record [("written", .array progress.written)])
    return 0

/-- Runs the command, which needs a target. -/
def run (request : Request) : Session Nat :=
  match request.target with
  | .value target => runTo request target
  | .absent | .void => throw (.void .mode)

end Diglot.Command.Convert
