import Diglot.Event
import Diglot.Fault
import Diglot.Text.Lines

/-!
# Workspaces

A workspace is the file tree that a run works on, together with the events and the output of the
run so far. A `Session` is a computation on it that may fail; what it did before it failed stays.
-/

set_option autoImplicit false

namespace Diglot

/-- The files, the events and the output of a run. -/
structure Workspace where
  tree : FileTree
  events : List Event := []
  output : Text := []

/-- A computation on a workspace that may fail. -/
abbrev Session := ExceptT Fault (StateM Workspace)

namespace Session

/-- Runs a session: its answer, and the workspace after it. -/
def on {α : Type} (session : Session α) (workspace : Workspace) : Except Fault α × Workspace :=
  StateT.run (ExceptT.run session) workspace

def record (event : Event) : Session Unit :=
  modify fun workspace => { workspace with events := workspace.events ++ [event] }

def put (text : Text) : Session Unit :=
  modify fun workspace => { workspace with output := workspace.output ++ text }

def tree : Session FileTree :=
  return (← get).tree

/-- The answer of a session, or the fault that it failed with if that is one to report. -/
def attempt {α : Type} (session : Session α) : Session (Except Fault α) :=
  ExceptT.mk do
    match ← ExceptT.run session with
    | .ok answer => return .ok (.ok answer)
    | .error fault => return if fault.isReported then .ok (.error fault) else .error fault

def nodeAt? (path : Path) : Session (Option Node) := do
  match (← tree).lookup path with
  | .ok node => return node
  | .error obstacle => throw (.file obstacle path)

def readBytes (path : Path) : Session Bytes := do
  match (← tree).read path with
  | .ok contents => return contents
  | .error obstacle => throw (.file obstacle path)

/-- The text of a file, with line feeds for line ends. -/
def readText (path : Path) : Session Text := do
  match Text.Utf8.decode (← readBytes path) with
  | .ok text => return Text.withNewlines text
  | .error malformed => throw (.malformed malformed)

/-- Gives a file new contents, and makes the directories that it needs. -/
def writeBytes (path : Path) (contents : Bytes) : Session Unit := do
  let prepared := (← tree).ensureDirectories path.parent
  modify fun workspace => { workspace with tree := prepared.tree }
  match prepared.failure with
  | some (obstacle, place) => throw (.file obstacle place)
  | none =>
    match prepared.tree.write path contents with
    | .error obstacle => throw (.file obstacle path)
    | .ok written => modify fun workspace => { workspace with tree := written }

/-- Gives a file a new text, and makes the directories that it needs. The file is emptied before the
text is encoded, so it stays empty if the text has no bytes. -/
def writeText (path : Path) (text : RawText) : Session Unit :=
  match Text.Utf8.encodeRaw text with
  | .ok contents => writeBytes path contents
  | .error found => do
    writeBytes path []
    throw (.unencodable found)

end Session

end Diglot
