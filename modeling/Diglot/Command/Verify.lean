import Diglot.Command.Basic
import Diglot.RoundTrip
import Diglot.Workspace.Source

/-!
# The verify command

Takes files to another mode and back and reports which of them do not come back as they were.
-/

set_option autoImplicit false

namespace Diglot.Command.Verify

structure Request where
  paths : List Path
  source : Option Mode
  via : Setting Mode
  dictionary : Setting Path
  library : Setting Path

def grammar : Grammar where
  options :=
    [helpOption, ⟨"from", ["--from"], modeChoices, false⟩, ⟨"via", ["--via"], modeChoices, false⟩,
     dictionaryOption, libraryOption, verboseOption]
  positionals := .oneOrMore

/-- The request of the arguments; without a choice the way goes through the hybrid mode. -/
def Request.ofArguments (arguments : Arguments) : Request where
  paths := arguments.paths
  source := (arguments.mode "from").toOption
  via := (arguments.mode "via").orElse .hybrid
  dictionary := arguments.path "dictionary"
  library := arguments.path "library"

/-- What became of a file. -/
inductive Status
  | ok
  | fail
  | error
  | skipped
  deriving DecidableEq, Repr

def Status.name : Status → String
  | .ok => "ok"
  | .fail => "fail"
  | .error => "error"
  | .skipped => "skipped"

structure FileReport where
  status : Status
  entry : Json

/-- The report on a file, with the members that its status calls for. -/
def fileReport (path : Path) (status : Status) (members : List (String × Json)) : FileReport :=
  ⟨status, .record (("path", pathJson path) :: ("status", .ofString status.name) :: members)⟩

def mismatchJson (mismatch : LineMismatch) : Json :=
  .record [("line", .nat mismatch.line), ("expected", .string mismatch.expected),
    ("actual", .string mismatch.actual)]

def tripMembers (trip : RoundTrip) : List (String × Json) :=
  [("ok", .bool trip.succeeded), ("source_mode", modeJson trip.source),
   ("via_mode", modeJson trip.via), ("markup_insensitive", .bool trip.ignoresMarkup),
   ("mismatches", .array (trip.mismatches.map mismatchJson))]

def verifyText (lexicon : Lexicon) (mode via : Mode) (path : Path) (text : Text) :
    Session FileReport := do
  let trip := RoundTrip.run lexicon mode via text
  if trip.succeeded then
    Session.record (.roundTripOk path)
    return fileReport path .ok (tripMembers trip)
  else
    Session.record (.roundTripFailed path trip.mismatches.length)
    return fileReport path .fail (tripMembers trip)

/-- Verifies one file. Without a source mode only localized files are verified. -/
def verifyFile (lexicon : Lexicon) (source : Option Mode) (via : Mode) (path : Path) :
    Session FileReport := do
  let mode := source.getD (Mode.ofPath path)
  if source.isNone ∧ path.suffix ≠ localizedSuffix then
    Session.record (.notVerifiedByDefault path localizedSuffix)
    return fileReport path .skipped []
  else if mode = via then
    Session.record (.sameModeTwice path mode)
    return fileReport path .skipped []
  else
    match ← Session.attempt (Session.readText path) with
    | .error fault =>
      Session.record (.unreadable path fault.message)
      return fileReport path .error (faultMembers fault)
    | .ok text => verifyText lexicon mode via path text

/-- Verifies the files of a request by way of a mode; the answer is the exit code. -/
def verifyAll (lexicon : Lexicon) (request : Request) (via : Mode) : Session Nat := do
  let files ← request.paths.mapM (verifyFile lexicon request.source via)
  let verified := files.filter fun file => file.status = .ok || file.status = .fail
  let failed := files.filter fun file => file.status = .fail || file.status = .error
  report (.record [("files", .array (files.map (·.entry))), ("verified", .nat verified.length),
    ("failed", .nat failed.length)])
  return if failed.isEmpty then 0 else 1

/-- Runs the command; the answer is its exit code. -/
def run (request : Request) : Session Nat := do
  match ← Session.attempt (Session.loadLexicon request.dictionary request.library) with
  | .error fault => reportFault fault
  | .ok lexicon =>
    match request.via with
    | .value via => verifyAll lexicon request via
    | .absent | .void => throw (.void .mode)

end Diglot.Command.Verify
