import Diglot.Text.Basic

/-!
# Paths

A path is a root and a list of names. Reading it drops empty and single-dot names, so that `a//b`,
`./a/b` and `a/b/` are one path; double dots stay. The empty relative path is written as a dot.
-/

set_option autoImplicit false

namespace Diglot

/-- A path: its root, which is empty for a relative path, and its names. -/
structure Path where
  root : Text
  parts : List Text
  deriving DecidableEq, Repr

namespace Path

/-- The root of a path: exactly two slashes are kept apart from one or many. -/
def rootOf : Text → Text
  | '/' :: '/' :: '/' :: _ => ['/']
  | '/' :: '/' :: _ => ['/', '/']
  | '/' :: _ => ['/']
  | _ => []

def ofText (text : Text) : Path :=
  ⟨rootOf text, (Text.splitOn '/' text).filter fun name => !name.isEmpty && name != ['.']⟩

def ofParts (parts : List Text) : Path :=
  ⟨[], parts⟩

def toText (path : Path) : Text :=
  if path.root.isEmpty && path.parts.isEmpty then ['.']
  else path.root ++ Text.join ['/'] path.parts

def shown (path : Path) : String :=
  path.toText.toStr

/-- The last name, which is empty if there is none. -/
def name (path : Path) : Text :=
  path.parts.getLast?.getD []

def parent (path : Path) : Path :=
  ⟨path.root, path.parts.dropLast⟩

def child (path : Path) (name : Text) : Path :=
  ⟨path.root, path.parts ++ [name]⟩

/-- A name cut before its last dot, if the dot is neither the first nor the last character. -/
def cutSuffix (name : Text) : Text × Text :=
  let extension := (name.reverse.takeWhile (· != '.')).reverse
  let stem := name.take (name.length - extension.length - 1)
  if extension.isEmpty || stem.isEmpty then (name, []) else (stem, '.' :: extension)

/-- The last name's suffix, with its dot. -/
def suffix (path : Path) : Text :=
  (cutSuffix path.name).2

def stem (path : Path) : Text :=
  (cutSuffix path.name).1

end Path

end Diglot
