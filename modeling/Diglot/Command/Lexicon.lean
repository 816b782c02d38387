import Diglot.Command.Basic
import Diglot.Coverage
import Diglot.Workspace.Source

/-!
# The lexicon commands

`add` enters a pair into a project dictionary, `snapshot` saves a library, and `scan` lists the
names of sources that the lexicon does not know.
-/

set_option autoImplicit false

namespace Diglot.Command.Lexicon

inductive Request
  | add (localized : Text) (primary : Option Text) (dictionary library : Setting Path)
  | snapshot (library : Path) (output : Setting Path)
  | scan (paths : List Path) (dictionary library : Setting Path)

def defaultDictionary : Path :=
  ⟨[], [['ל', 'ע', 'ק', 'ס', 'י', 'ק', 'א', '\u05b8', 'ן', '.', 'y', 'a', 'm', 'l']]⟩

/-! ## Arguments -/

def addGrammar : Grammar where
  options := [helpOption, dictionaryOption, libraryOption]
  positionals := .exactly 2

def snapshotGrammar : Grammar where
  options := [helpOption, ⟨"output", ["-o", "--output"], .value, true⟩]
  positionals := .exactly 1

def scanGrammar : Grammar where
  options := [helpOption, dictionaryOption, libraryOption]
  positionals := .oneOrMore

/-- The arguments before the name of a command. -/
def outerGrammar : Grammar where
  options := [helpOption, verboseOption]
  positionals := .command

def readAdd (texts : List Text) : Except Stop Request :=
  match addGrammar.read texts with
  | .error stop => .error stop
  | .ok arguments =>
    match arguments.positionals with
    | [some localized, primary] =>
      .ok (.add localized primary ((arguments.path "dictionary").orElse defaultDictionary)
        (arguments.path "library"))
    | _ => .error .misuse

def readSnapshot (texts : List Text) : Except Stop Request :=
  match snapshotGrammar.read texts with
  | .error stop => .error stop
  | .ok arguments =>
    match arguments.paths with
    | [library] => .ok (.snapshot library (arguments.path "output"))
    | _ => .error .misuse

def readScan (texts : List Text) : Except Stop Request :=
  match scanGrammar.read texts with
  | .error stop => .error stop
  | .ok arguments =>
    .ok (.scan arguments.paths (arguments.path "dictionary") (arguments.path "library"))

def readCommand (name : Text) (texts : List Text) : Except Stop Request :=
  if name = ['a', 'd', 'd'] then readAdd texts
  else if name = ['s', 'n', 'a', 'p', 's', 'h', 'o', 't'] then readSnapshot texts
  else if name = ['s', 'c', 'a', 'n'] then readScan texts
  else .error .misuse

/-- What was asked for, and whether with a full log. There need not be a command. -/
structure Call where
  verbose : Bool
  request : Option Request

/-- Reads the arguments. All that follows the name of a command belongs to the command. -/
def Call.read (texts : List Text) : Except Stop Call := do
  let arguments ← outerGrammar.readSome texts
  let request ← arguments.command.mapM fun (name, own) => readCommand name own
  if arguments.surplus then .error .misuse
  else return { verbose := arguments.has "verbose", request }

/-! ## Runs -/

/-- The path of a setting, which must have one. -/
def needPath : Setting Path → Session Path
  | .value path => return path
  | .absent | .void => throw (.void .path)

/-- Adds a pair to a project dictionary. Without a primary symbol it fails once the dictionary is
read. -/
def add (localized : Text) (primary : Option Text) (dictionary library : Setting Path) :
    Session Json := do
  let lexicon ← Session.compilationLexicon (← Session.loadLibrarySetting library)
  let path ← needPath dictionary
  match primary with
  | none =>
    let _ ← Session.loadProject path true
    throw (.void .symbol)
  | some primary =>
    let project ← Session.addEntry path ⟨localized.raw, primary.raw⟩ (some lexicon.raw)
    return .record
      [("added", .record [("localized", .string localized), ("primary", .string primary)]),
       ("dictionary", pathJson path), ("project_identifiers", .nat project.size)]

def snapshot (library : Path) (output : Setting Path) : Session Json := do
  let symbols ← Session.loadLibrary library
  let path ← needPath output
  Session.saveSnapshot symbols path
  return .record [("library_symbols", .nat symbols.size), ("output", pathJson path)]

/-- Whether a file found in a directory is a source. -/
def isSource (path : Path) : Bool :=
  path.suffix = localizedSuffix || path.suffix = primarySuffix

/-- The sources of a path: the path itself, or the sources below it if it is a directory. -/
def sourcesOf (path : Path) : Session (List Path) := do
  match ← Session.nodeAt? path with
  | some .directory => return ((← Session.tree).below path).filter isSource
  | some (.file _) => return [path]
  | none =>
    Session.record (.notFound path)
    return []

/-- The uncovered names of the sources of one mode. -/
def uncoveredOf (lexicon : Diglot.Lexicon) (mode : Mode) (files : List Path) :
    Session (List Text) := do
  let texts ← (files.filter (Mode.ofPath · = mode)).mapM Session.readText
  return uncovered lexicon mode.hasMarkup texts

/-- Lists the names that the lexicon does not know. -/
def scan (paths : List Path) (dictionary library : Setting Path) : Session Json := do
  let lexicon ← Session.loadLexicon dictionary library
  let files := (← paths.mapM sourcesOf).flatten
  let localizedNames ← uncoveredOf lexicon .localized files
  let hybridNames ← uncoveredOf lexicon .hybrid files
  return .record
    [("files", .nat files.length),
     ("untranslated", .array ((ascending (localizedNames ++ hybridNames)).map .string))]

/-- The report that a request leads to. -/
def perform : Request → Session Json
  | .add localized primary dictionary library => add localized primary dictionary library
  | .snapshot library output => snapshot library output
  | .scan paths dictionary library => scan paths dictionary library

/-- Runs a command; the answer is its exit code. -/
def run (request : Request) : Session Nat := do
  match ← Session.attempt (perform request) with
  | .error fault => reportFault fault
  | .ok value =>
    report value
    return 0

end Diglot.Command.Lexicon
