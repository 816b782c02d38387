import Diglot.Command.Arguments
import Diglot.Json.Writer
import Diglot.Mode
import Diglot.Workspace.Dictionary

/-!
# Commands

What the commands have in common: reports in JSON on the output, the form of a fault in a report,
and the options that several commands take.
-/

set_option autoImplicit false

namespace Diglot.Command

def report (value : Json) : Session Unit :=
  Session.put (value.write ++ ['\n'])

def pathJson (path : Path) : Json :=
  .string path.toText

def modeJson (mode : Mode) : Json :=
  .ofString mode.name

def faultMembers (fault : Fault) : List (String × Json) :=
  [("error", .ofString fault.reportName), ("message", .ofString fault.message)]

/-- Reports the fault that ended a run, which thereby failed. -/
def reportFault (fault : Fault) : Session Nat := do
  report (.record (faultMembers fault))
  return 1

def modeChoices : OptionUse :=
  .choice (Mode.all.map (·.name.toList))

def Arguments.mode (arguments : Arguments) (key : String) : Setting Mode :=
  (arguments.setting key).bind Mode.ofName?

def Arguments.path (arguments : Arguments) (key : String) : Setting Path :=
  (arguments.setting key).map Path.ofText

def Arguments.paths (arguments : Arguments) : List Path :=
  arguments.positionals.filterMap fun given => given.map Path.ofText

end Diglot.Command
