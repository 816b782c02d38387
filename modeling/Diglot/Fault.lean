import Diglot.Dictionary.Snapshot
import Diglot.FileTree
import Diglot.Lexicon

/-!
# Faults

Every way in which an operation on a workspace can fail, with its cause. `Fault.message` is the
wording. Most faults are reported by the command that meets them; those that are not end the run.
-/

set_option autoImplicit false

namespace Diglot

inductive DictionaryProblem
  | absent
  | duplicate (conflict : Conflict)
  | snapshot (problem : Snapshot.Problem)

def DictionaryProblem.message : DictionaryProblem → String
  | .absent => "project dictionary not found"
  | .duplicate ⟨side, entry, existing⟩ =>
    let side := side.name
    let repeated := s!"{entry.localized.shown} -> {entry.primary.shown}"
    let present := s!"{existing.localized.shown} -> {existing.primary.shown}"
    s!"duplicate {side} name: {repeated} conflicts with {present}"
  | .snapshot problem => problem.message

/-- What a setting with nothing in it was needed for. -/
inductive Need
  | path
  | mode
  | outputFile
  | outputDirectory
  | symbol
  deriving DecidableEq, Repr

def Need.message : Need → String
  | .path => "expected str, bytes or os.PathLike object, not list"
  | .mode => "[] is not a valid Mode"
  | .outputFile => "'list' object has no attribute 'is_dir'"
  | .outputDirectory => "unsupported operand type(s) for /: 'list' and 'str'"
  | .symbol => "unhashable type: 'list'"

def Need.reportName : Need → String
  | .path | .outputDirectory | .symbol => "TypeError"
  | .mode => "ValueError"
  | .outputFile => "AttributeError"

inductive Fault
  | conflict (conflict : Conflict RawText) (labels : MergeLabels)
  | clash (clash : Clash RawText)
  | dictionary (path : Path) (problem : DictionaryProblem)
  | file (obstacle : Obstacle) (path : Path)
  | malformed (malformed : Text.Utf8.Malformed)
  | unencodable (found : Text.Utf8.Unencodable)
  | void (need : Need)
  | unquotable

/-- The fault in words. Where symbols are not quoted, the replacement character stands for a
surrogate. -/
def Fault.message : Fault → String
  | .conflict found labels => found.message labels
  | .clash found => found.message.toStr
  | .dictionary path problem => s!"{path.shown}: {problem.message}"
  | .file obstacle path => obstacle.message path
  | .malformed found => found.message
  | .unencodable found => found.message
  | .void need => need.message
  | .unquotable => "maximum recursion depth exceeded while getting the repr of an object"

/-- The name under which a report lists a fault. -/
def Fault.reportName : Fault → String
  | .conflict .. => "BiMapCollisionError"
  | .clash _ => "LexiconCollisionError"
  | .dictionary .. => "DictionaryFormatError"
  | .file .missing _ => "FileNotFoundError"
  | .file .notDirectory _ => "NotADirectoryError"
  | .file .isDirectory _ => "IsADirectoryError"
  | .file .alreadyThere _ => "FileExistsError"
  | .file .tooLong _ => "OSError"
  | .file .tooDeep _ => "RecursionError"
  | .file .nullCharacter _ => "ValueError"
  | .malformed _ => "UnicodeDecodeError"
  | .unencodable _ => "UnicodeEncodeError"
  | .void need => need.reportName
  | .unquotable => "RecursionError"

/-- Whether a command reports the fault instead of ending with it. -/
def Fault.isReported : Fault → Bool
  | .file .tooDeep _ | .file .nullCharacter _ | .unencodable _ | .void _ | .unquotable => false
  | _ => true

end Diglot
