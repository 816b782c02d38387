import Diglot.Command.Convert
import Diglot.Command.Lexicon
import Diglot.Command.Verify

/-!
# Running a command

The three tools of the command line as functions: from arguments and a file tree to an exit code,
an output, a log and the file tree after the run.
-/

set_option autoImplicit false

namespace Diglot.Command

inductive Tool
  | convert
  | verify
  | lexicon
  deriving DecidableEq, Repr

def Tool.name : Tool → String
  | .convert => "convert"
  | .verify => "verify"
  | .lexicon => "lexicon"

def Tool.usage : Tool → String
  | .convert =>
    "usage: diglot convert [-h] --to A|B|C [--from A|B|C] [--dictionary FILE] [--library PATH]\n" ++
    "                      [-o PATH] [--json] [-v] FILE...\n"
  | .verify =>
    "usage: diglot verify [-h] [--from A|B|C] [--via A|B|C] [--dictionary FILE]\n" ++
    "                     [--library PATH] [-v] FILE...\n"
  | .lexicon =>
    "usage: diglot lexicon [-h] [-v] add LOCALIZED PRIMARY [--dictionary FILE] [--library PATH]\n" ++
    "       diglot lexicon [-h] [-v] snapshot LIBRARY -o FILE\n" ++
    "       diglot lexicon [-h] [-v] scan PATH... [--dictionary FILE] [--library PATH]\n"

structure Outcome where
  exit : Nat
  output : Text
  log : String
  tree : FileTree

/-- A run that ends before it begins. -/
def Outcome.early (exit : Nat) (output : String) (tree : FileTree) : Outcome :=
  ⟨exit, output.toList, "", tree⟩

/-- The log of a run: events of no interest are in it only on demand. -/
def logText (verbose : Bool) (events : List Event) : String :=
  String.join ((events.filter fun event => verbose || event.level ≠ .debug).map Event.logLine)

/-- What a session leaves behind, or the fault that it did not catch. -/
def conclude (session : Session Nat) (verbose : Bool) (tree : FileTree) :
    Except Fault Outcome :=
  match session.on { tree } with
  | (.error fault, _) => .error fault
  | (.ok exit, workspace) =>
    .ok ⟨exit, workspace.output, logText verbose workspace.events, workspace.tree⟩

/-- What arguments that lead to no run leave behind. -/
def Tool.stopped (tool : Tool) (tree : FileTree) : Stop → Outcome
  | .help => .early 0 tool.usage tree
  | .misuse => .early 2 "" tree

def convertTool (texts : List Text) (tree : FileTree) : Except Fault Outcome :=
  match Convert.grammar.read texts with
  | .error stop => .ok (Tool.convert.stopped tree stop)
  | .ok arguments =>
    conclude (Convert.run (.ofArguments arguments)) (arguments.has "verbose") tree

def verifyTool (texts : List Text) (tree : FileTree) : Except Fault Outcome :=
  match Verify.grammar.read texts with
  | .error stop => .ok (Tool.verify.stopped tree stop)
  | .ok arguments =>
    conclude (Verify.run (.ofArguments arguments)) (arguments.has "verbose") tree

/-- Runs one of the lexicon commands; without a command it tells how they are used. -/
def lexiconTool (texts : List Text) (tree : FileTree) : Except Fault Outcome :=
  match Lexicon.Call.read texts with
  | .error stop => .ok (Tool.lexicon.stopped tree stop)
  | .ok call =>
    match call.request with
    | none => .ok (.early 1 Tool.lexicon.usage tree)
    | some request => conclude (Lexicon.run request) call.verbose tree

def Tool.run : Tool → List Text → FileTree → Except Fault Outcome
  | .convert => convertTool
  | .verify => verifyTool
  | .lexicon => lexiconTool

end Diglot.Command
