import Diglot.Ascending
import Diglot.Path
import Diglot.Text.Quoted
import Diglot.Text.Utf8

/-!
# File trees

The files and directories below a working directory. A directory that has something in it need not
be entered: every front of an entered place is a directory. Nothing is entered twice, and the
directories that places are counted from are never entered; the type carries both facts. Paths are
followed from the working directory, name by name; a double dot goes up.

The directories above the working directory are there, but nothing is known of what else is in
them, not even the name of the working directory. So nothing is found above it but what was put
there.
-/

set_option autoImplicit false

namespace Diglot

/-- The directory that the names of a place are counted from: the working directory or one some
levels above it, or the root. -/
inductive Base
  | above (levels : Nat)
  | root
  deriving DecidableEq, Repr

/-- The directory that a directory of this kind is in. -/
def Base.up : Base → Base
  | .above levels => .above (levels + 1)
  | .root => .root

/-- A place in the tree: a directory, and the names that lead on from it. -/
structure Place where
  base : Base := .above 0
  names : List Text
  deriving DecidableEq, Repr

namespace Place

def enter (place : Place) (name : Text) : Place :=
  { place with names := place.names ++ [name] }

def leave (place : Place) : Place :=
  if place.names.isEmpty then { place with base := place.base.up }
  else { place with names := place.names.dropLast }

def leadsTo (place other : Place) : Bool :=
  place.base = other.base && place.names.isPrefixOf other.names

end Place

inductive Node
  | file (contents : Bytes)
  | directory
  deriving DecidableEq, Repr

structure FileTree where
  entries : List (Place × Node)
  places_nodup : (entries.map Prod.fst).Nodup
  names_ne_nil : ∀ entry ∈ entries, entry.1.names ≠ []
  deriving DecidableEq, Repr

/-- Why a path cannot be used. -/
inductive Obstacle
  | missing
  | notDirectory
  | isDirectory
  | alreadyThere
  | tooLong
  | tooDeep
  | nullCharacter
  deriving DecidableEq, Repr

/-- The obstacle at a path in words. Most obstacles have a number. -/
def Obstacle.message (obstacle : Obstacle) (path : Path) : String :=
  let written := path.toText.shown
  match obstacle with
  | .missing => s!"[Errno 2] No such file or directory: {written}"
  | .notDirectory => s!"[Errno 20] Not a directory: {written}"
  | .isDirectory => s!"[Errno 21] Is a directory: {written}"
  | .alreadyThere => s!"[Errno 17] File exists: {written}"
  | .tooLong => s!"[Errno 36] File name too long: {written}"
  | .tooDeep => "maximum recursion depth exceeded while calling a Python object"
  | .nullCharacter => "embedded null byte"

namespace FileTree

def empty : FileTree := ⟨[], by simp, by simp⟩

/-- What is at a place, if anything. -/
def node? (tree : FileTree) (place : Place) : Option Node :=
  match tree.entries.find? (·.1 = place) with
  | some (_, node) => some node
  | none =>
    if place.names.isEmpty || tree.entries.any (fun entry => place.leadsTo entry.1) then
      some .directory
    else none

/-- Whether an entry stays when a place is entered: not what was entered there, nor a directory on
the way to it, which needs no entry any more. -/
def staysBeside (place : Place) (entry : Place × Node) : Bool :=
  entry.1 ≠ place && !(entry.2 = .directory && entry.1.leadsTo place)

/-- No place is entered twice when what stays is entered beside it. -/
theorem places_nodup_beside (tree : FileTree) (place : Place) (node : Node) :
    ((tree.entries.filter (staysBeside place) ++ [(place, node)]).map Prod.fst).Nodup := by
  have others : ((tree.entries.filter (staysBeside place)).map Prod.fst).Nodup :=
    (List.Sublist.map _ List.filter_sublist).nodup tree.places_nodup
  rw [List.map_append, List.nodup_append]
  refine ⟨others, by simp, ?_⟩
  rintro other inOthers _ here rfl
  obtain ⟨entry, stays, rfl⟩ := List.mem_map.1 inOthers
  obtain same : entry.1 = place := by simpa using here
  simpa [staysBeside, same] using (List.mem_filter.1 stays).2

/-- Enters a node at a place, in place of what was entered there. -/
def insert (tree : FileTree) (place : Place) (node : Node) : FileTree :=
  if named : place.names = [] then tree
  else
    { entries := tree.entries.filter (staysBeside place) ++ [(place, node)]
      places_nodup := tree.places_nodup_beside place node
      names_ne_nil := by
        intro entry member
        rcases List.mem_append.1 member with stays | here
        · exact tree.names_ne_nil entry (List.mem_filter.1 stays).1
        · obtain rfl : entry = (place, node) := by simpa using here
          exact named }

/-- Enters a node in the working directory under the names of a path. -/
def insertAt (tree : FileTree) (path : Path) (node : Node) : FileTree :=
  tree.insert { names := path.parts } node

/-! ## Following paths -/

/-- The most bytes that a name can have. -/
def nameLimit : Nat := 255

/-- The most bytes that a whole path can have. -/
def pathLimit : Nat := 4095

def byteCount (text : Text) : Nat :=
  (Text.Utf8.encode text).length

/-- Follows names from a place; each name must lead on from a directory. -/
def walk (tree : FileTree) (here : Place) : List Text → Except Obstacle Place
  | [] => .ok here
  | name :: names =>
    match tree.node? here with
    | none => .error .missing
    | some (.file _) => .error .notDirectory
    | some .directory =>
      if name = ['.', '.'] then walk tree here.leave names
      else if nameLimit < byteCount name then .error .tooLong
      else walk tree (here.enter name) names

/-- The place where a path begins. -/
def startOf (path : Path) : Place :=
  { base := if path.root.isEmpty then .above 0 else .root, names := [] }

def locate (tree : FileTree) (path : Path) : Except Obstacle Place :=
  if path.toText.contains '\x00' then .error .nullCharacter
  else if pathLimit < byteCount path.toText then .error .tooLong
  else tree.walk (startOf path) path.parts

/-- What is at a path, if anything. A path that is too long cannot be looked up; one that cannot
lead anywhere has nothing at it. -/
def lookup (tree : FileTree) (path : Path) : Except Obstacle (Option Node) :=
  match tree.locate path with
  | .ok place => .ok (tree.node? place)
  | .error .tooLong => .error .tooLong
  | .error _ => .ok none

def read (tree : FileTree) (path : Path) : Except Obstacle Bytes :=
  match tree.locate path with
  | .error obstacle => .error obstacle
  | .ok place =>
    match tree.node? place with
    | none => .error .missing
    | some .directory => .error .isDirectory
    | some (.file contents) => .ok contents

/-! ## Growing -/

/-- The tree with new contents in the file at a path. Its directory must be there. -/
def write (tree : FileTree) (path : Path) (contents : Bytes) : Except Obstacle FileTree :=
  match tree.locate path with
  | .error obstacle => .error obstacle
  | .ok place =>
    if tree.node? place = some .directory then .error .isDirectory
    else .ok (tree.insert place (.file contents))

def makeDirectory (tree : FileTree) (path : Path) : Except Obstacle FileTree :=
  match tree.locate path with
  | .error obstacle => .error obstacle
  | .ok place =>
    if (tree.node? place).isSome then .error .alreadyThere
    else .ok (tree.insert place .directory)

/-- What came of making directories: the tree with those that were made, and what kept the next one
from being made, if anything did. -/
structure Preparation where
  tree : FileTree
  failure : Option (Obstacle × Path) := none

/-- Makes a directory, which may be there already. -/
def ensureDirectory (tree : FileTree) (path : Path) : Preparation :=
  match tree.makeDirectory path with
  | .ok larger => ⟨larger, none⟩
  | .error obstacle =>
    match tree.lookup path with
    | .ok (some .directory) => ⟨tree, none⟩
    | _ => ⟨tree, some (obstacle, path)⟩

/-- How many directories can be made along one path. -/
def levelLimit : Nat := 987

/-- Makes the directories along a path, given by its names from the last to the first, of which
`levels` may be missing. A directory above is made only where it is missing. -/
def ensureAlong (tree : FileTree) (root : Text) (levels : Nat) : List Text → Preparation
  | [] => tree.ensureDirectory ⟨root, []⟩
  | name :: above =>
    let path : Path := ⟨root, (name :: above).reverse⟩
    match tree.makeDirectory path with
    | .ok larger => ⟨larger, none⟩
    | .error .missing =>
      if levels ≤ 1 then ⟨tree, some (.tooDeep, path)⟩
      else
        let prepared := ensureAlong tree root (levels - 1) above
        if prepared.failure.isSome then prepared else prepared.tree.ensureDirectory path
    | .error _ => tree.ensureDirectory path

/-- Makes the directory at a path and all those above it. -/
def ensureDirectories (tree : FileTree) (path : Path) : Preparation :=
  tree.ensureAlong path.root levelLimit path.parts.reverse

/-! ## Listing -/

/-- The names that lead from a place to an entry and to the directories between them. -/
def namesBelow (place entry : Place) : List (List Text) :=
  if place.leadsTo entry then
    let onward := entry.names.drop place.names.length
    (List.range' 1 onward.length).map onward.take
  else []

/-- Everything below a directory, in ascending order of names. -/
def below (tree : FileTree) (path : Path) : List Path :=
  match tree.locate path with
  | .error _ => []
  | .ok place =>
    (ascending (tree.entries.flatMap fun entry => namesBelow place entry.1)).map fun found =>
      ⟨path.root, path.parts ++ found⟩

/-- The files in the working directory of a tree that another tree does not have with the same
contents, in ascending order of their written paths. -/
def changesTo (before after : FileTree) : List (Text × Bytes) :=
  let changed := after.entries.filterMap fun (place, node) =>
    match place.base, node with
    | .above 0, .file contents =>
      if before.node? place = some (.file contents) then none
      else some ((Path.ofParts place.names).toText, contents)
    | _, _ => none
  let names := ascending (changed.map (·.1))
  names.filterMap fun name => changed.find? (·.1 = name)

end FileTree

end Diglot
