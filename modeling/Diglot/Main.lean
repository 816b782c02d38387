import Diglot.Command.Run

/-!
# The command line

The first argument names the tool and the others are its arguments. The files that the tool may see
are named on the standard input, one path per line; what cannot be read there as a file counts as a
directory. Files that the run has changed are written back.
-/

set_option autoImplicit false

namespace Diglot

def Command.Tool.ofName? (name : String) : Option Command.Tool :=
  [Command.Tool.convert, .verify, .lexicon].find? (·.name = name)

def loadFile (tree : FileTree) (name : String) : IO FileTree := do
  let path := Path.ofText name.toList
  try
    let contents ← IO.FS.readBinFile path.shown
    return tree.insertAt path (.file contents.toList)
  catch _ =>
    return tree.insertAt path .directory

/-- The paths on the standard input. -/
partial def namedPaths (input : IO.FS.Stream) (names : List String) : IO (List String) := do
  let line ← input.getLine
  if line.isEmpty then return names.reverse
  let name := line.trimAscii.toString
  namedPaths input (if name.isEmpty then names else name :: names)

def saveChanges (before after : FileTree) : IO Unit :=
  (before.changesTo after).forM fun (name, contents) => do
    let path := Path.ofText name
    IO.FS.createDirAll path.parent.shown
    IO.FS.writeBinFile path.shown ⟨contents.toArray⟩

def runTool (tool : Command.Tool) (arguments : List String) : IO UInt32 := do
  let names ← namedPaths (← IO.getStdin) []
  let tree ← names.foldlM loadFile FileTree.empty
  match tool.run (arguments.map String.toList) tree with
  | .error fault =>
    IO.eprintln fault.message
    return 1
  | .ok outcome =>
    saveChanges tree outcome.tree
    IO.print outcome.output.toStr
    IO.eprint outcome.log
    return UInt32.ofNat outcome.exit

def showUsage : IO UInt32 := do
  [Command.Tool.convert, .verify, .lexicon].forM fun tool => IO.eprint tool.usage
  return 2

end Diglot

/-- Runs the tool that the first argument names. -/
def main (arguments : List String) : IO UInt32 :=
  match arguments with
  | name :: rest =>
    match Diglot.Command.Tool.ofName? name with
    | some tool => Diglot.runTool tool rest
    | none => Diglot.showUsage
  | [] => Diglot.showUsage
