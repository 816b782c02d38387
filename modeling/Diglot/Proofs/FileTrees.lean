import Diglot.FileTree
import Mathlib.Data.List.Nodup

/-!
# What a file tree keeps

Entering a node at a place changes what is at that place and nothing else that is there
(`node?_insert_of_ne`). So a path that leads somewhere still leads there after directories were
made or a file was written, and what was stored at a path is read back from it.
-/

set_option autoImplicit false

namespace Diglot

namespace Place

theorem leadsTo_iff {place other : Place} :
    place.leadsTo other = true ↔ place.base = other.base ∧ place.names <+: other.names := by
  rw [leadsTo, Bool.and_eq_true, decide_eq_true_iff, List.isPrefixOf_iff_prefix]

theorem leadsTo_self (place : Place) : place.leadsTo place = true :=
  leadsTo_iff.2 ⟨rfl, List.prefix_rfl⟩

theorem leadsTo_trans {first second third : Place} (on : first.leadsTo second = true)
    (further : second.leadsTo third = true) : first.leadsTo third = true := by
  rw [leadsTo_iff] at *
  exact ⟨on.1.trans further.1, on.2.trans further.2⟩

theorem name_eq_of_enter_eq {place other : Place} {name otherName : Text}
    (same : place.enter name = other.enter otherName) : name = otherName := by
  have names : place.names ++ [name] = other.names ++ [otherName] := congrArg Place.names same
  simpa using (List.append_inj' names rfl).2

end Place

theorem Text.join_dropLast_isPrefix (separator : Text) (pieces : List Text) :
    join separator pieces.dropLast <+: join separator pieces := by
  induction pieces with
  | nil => exact List.prefix_rfl
  | cons piece pieces ih =>
    match pieces with
    | [] => exact List.nil_prefix
    | [last] => exact ⟨separator ++ last, by simp [join]⟩
    | next :: another :: others => simpa [join] using ih

/-- The parent is written as a front of the path, or as a dot. -/
theorem Path.toText_parent (path : Path) :
    path.parent.toText = ['.'] ∨ path.parent.toText <+: path.toText := by
  by_cases bare : path.root.isEmpty && path.parts.dropLast.isEmpty
  · exact .inl (by rw [toText, parent, if_pos bare])
  · have full : ¬(path.root.isEmpty && path.parts.isEmpty) := by
      intro empty
      simp_all
    rw [toText, parent, if_neg bare, toText, if_neg full]
    exact .inr ((List.prefix_append_right_inj _).2 (Text.join_dropLast_isPrefix _ _))

namespace FileTree

variable {tree larger after : FileTree} {place other here : Place} {node new : Node}
  {path : Path} {contents : Bytes}

/-! ## What is at a place -/

/-- What is entered at a place is found there. -/
theorem node?_of_mem (member : (place, node) ∈ tree.entries) : tree.node? place = some node := by
  rw [node?]
  split
  · next found new search =>
    have same : found = place := by simpa using List.find?_some search
    have entry := List.inj_on_of_nodup_map tree.places_nodup (List.mem_of_find?_eq_some search)
      member same
    rw [(Prod.mk.inj entry).2]
  · next search => simpa using List.find?_eq_none.1 search _ member

/-- What is found at a place was entered there, or is a directory without an entry. -/
theorem mem_or_of_node? (there : tree.node? place = some node) :
    (place, node) ∈ tree.entries ∨
      node = .directory ∧ (place.names = [] ∨ ∃ entry ∈ tree.entries, place.leadsTo entry.1) := by
  rw [node?] at there
  split at there
  · next found new search =>
    obtain rfl : found = place := by simpa using List.find?_some search
    exact .inl (Option.some.inj there ▸ List.mem_of_find?_eq_some search)
  · split at there
    · next leads => exact .inr ⟨(Option.some.inj there).symm, by simpa using leads⟩
    · simp at there

theorem node?_eq_file_iff :
    tree.node? place = some (.file contents) ↔ (place, .file contents) ∈ tree.entries := by
  refine ⟨fun there => ?_, node?_of_mem⟩
  rcases mem_or_of_node? there with member | ⟨directory, -⟩
  · exact member
  · simp at directory

/-- A directory is at a place that only directories are entered at and that leads on to an entry, or
that names are counted from. -/
theorem node?_eq_directory_iff :
    tree.node? place = some .directory ↔
      (∀ node, (place, node) ∈ tree.entries → node = .directory) ∧
        (place.names = [] ∨ ∃ entry ∈ tree.entries, place.leadsTo entry.1) := by
  constructor
  · intro there
    refine ⟨fun node member => Option.some.inj ((node?_of_mem member).symm.trans there), ?_⟩
    rcases mem_or_of_node? there with member | ⟨-, leads⟩
    · exact .inr ⟨_, member, place.leadsTo_self⟩
    · exact leads
  · rintro ⟨directories, leads⟩
    rw [node?]
    split
    · next found node search =>
      obtain rfl : found = place := by simpa using List.find?_some search
      rw [directories node (List.mem_of_find?_eq_some search)]
    · rw [if_pos (by simpa using leads)]

/-- Names are counted from directories. -/
theorem node?_of_names_eq_nil (unnamed : place.names = []) :
    tree.node? place = some .directory :=
  node?_eq_directory_iff.2
    ⟨fun _ member => absurd unnamed (tree.names_ne_nil _ member), .inl unnamed⟩

theorem names_ne_nil_of_node? (file : tree.node? place ≠ some .directory) : place.names ≠ [] :=
  fun unnamed => file (node?_of_names_eq_nil unnamed)

/-! ## Entering a node -/

theorem entries_insert (named : place.names ≠ []) :
    (tree.insert place new).entries =
      tree.entries.filter (staysBeside place) ++ [(place, new)] := by
  rw [insert, dif_neg named]

theorem node?_insert_self (named : place.names ≠ []) :
    (tree.insert place new).node? place = some new :=
  node?_of_mem (by simp [entries_insert named])

/-- What is at another place stays there. -/
theorem node?_insert_of_ne (apart : other ≠ place) (there : tree.node? other = some node) :
    (tree.insert place new).node? other = some node := by
  by_cases named : place.names = []
  · rwa [insert, dif_pos named]
  cases node with
  | file contents =>
    rw [node?_eq_file_iff] at there ⊢
    rw [entries_insert named]
    exact List.mem_append_left _ (List.mem_filter.2 ⟨there, by simp [staysBeside, apart]⟩)
  | directory =>
    rw [node?_eq_directory_iff] at there ⊢
    obtain ⟨directories, leads⟩ := there
    rw [entries_insert named]
    constructor
    · intro node member
      rcases List.mem_append.1 member with stays | here
      · exact directories node (List.mem_filter.1 stays).1
      · exact absurd (Prod.mk.inj (List.mem_singleton.1 here)).1 apart
    · refine leads.imp id ?_
      rintro ⟨entry, member, leads⟩
      by_cases stays : staysBeside place entry = true
      · exact ⟨entry, List.mem_append_left _ (List.mem_filter.2 ⟨member, stays⟩), leads⟩
      -- An entry that does not stay leads on to the place, and so does all that leads to it.
      · refine ⟨(place, new), by simp, Place.leadsTo_trans leads ?_⟩
        have onTheWay : entry.1 = place ∨ entry.2 = .directory ∧ entry.1.leadsTo place = true := by
          simpa [staysBeside, or_iff_not_imp_left] using stays
        rcases onTheWay with rfl | ⟨-, leads⟩
        · exact entry.1.leadsTo_self
        · exact leads

/-! ## Following paths -/

/-- Whether every directory of a tree is one of another tree. -/
def KeepsDirectories (tree after : FileTree) : Prop :=
  ∀ place, tree.node? place = some .directory → after.node? place = some .directory

theorem KeepsDirectories.trans {first second third : FileTree}
    (on : first.KeepsDirectories second) (further : second.KeepsDirectories third) :
    first.KeepsDirectories third :=
  fun place there => further place (on place there)

/-- A name leads on from a directory: a double dot up, any other name that is not too long down. -/
theorem walk_cons_eq_ok_iff {name : Text} {names : List Text} :
    tree.walk here (name :: names) = .ok place ↔
      tree.node? here = some .directory ∧
        (name = ['.', '.'] ∧ tree.walk here.leave names = .ok place ∨
          name ≠ ['.', '.'] ∧ byteCount name ≤ nameLimit ∧
            tree.walk (here.enter name) names = .ok place) := by
  rw [walk]
  split
  · next missing => simp [missing]
  · next file => simp [file]
  · next directory =>
    split
    · next up => simp [directory, up]
    · next onward =>
      split
      · next long => simp [onward, Nat.not_le.2 long]
      · next short => simp [directory, onward, Nat.not_lt.1 short]

theorem KeepsDirectories.walk (kept : tree.KeepsDirectories after) {names : List Text}
    (reached : tree.walk here names = .ok place) : after.walk here names = .ok place := by
  induction names generalizing here with
  | nil => exact reached
  | cons name names ih =>
    rw [walk_cons_eq_ok_iff] at reached ⊢
    obtain ⟨directory, ⟨up, rest⟩ | ⟨onward, short, rest⟩⟩ := reached
    · exact ⟨kept here directory, .inl ⟨up, ih rest⟩⟩
    · exact ⟨kept here directory, .inr ⟨onward, short, ih rest⟩⟩

theorem locate_eq_ok_iff :
    tree.locate path = .ok place ↔
      '\x00' ∉ path.toText ∧ byteCount path.toText ≤ pathLimit ∧
        tree.walk (startOf path) path.parts = .ok place := by
  rw [locate]
  split
  · next null => simp [List.contains_iff_mem.1 null]
  · next noNull =>
    split
    · next long => simp [Nat.not_le.2 long]
    · next short => simp [mt List.contains_iff_mem.2 noNull, Nat.not_lt.1 short]

theorem byteCount_le {front text : Text} (isFront : front <+: text) :
    byteCount front ≤ byteCount text := by
  obtain ⟨rest, rfl⟩ := isFront
  rw [byteCount, byteCount, Text.Utf8.encode, Text.Utf8.encode, List.flatMap_append,
    List.length_append]
  exact Nat.le_add_right _ _

theorem KeepsDirectories.locate (kept : tree.KeepsDirectories after)
    (located : tree.locate path = .ok place) : after.locate path = .ok place := by
  rw [locate_eq_ok_iff] at located ⊢
  exact ⟨located.1, located.2.1, kept.walk located.2.2⟩

theorem read_eq_ok_iff :
    tree.read path = .ok contents ↔
      ∃ place, tree.locate path = .ok place ∧ tree.node? place = some (.file contents) := by
  rw [read]
  split
  · next obstacle failed => simp [failed]
  · next place located =>
    split <;> simp [*]

theorem lookup_of_locate (located : tree.locate path = .ok place) :
    tree.lookup path = .ok (tree.node? place) := by
  rw [lookup, located]

/-- Whether every directory on the way to a place is there. -/
def Reaches (tree : FileTree) (place : Place) : Prop :=
  ∀ names, names <+: place.names → names ≠ place.names →
    tree.node? { place with names } = some .directory

theorem Reaches.leave (reached : tree.Reaches here) :
    tree.Reaches here.leave ∧ tree.node? here.leave = some .directory := by
  rw [Place.leave]
  split
  · next unnamed =>
    rw [List.isEmpty_iff] at unnamed
    refine ⟨?_, node?_of_names_eq_nil unnamed⟩
    intro names front _
    exact node?_of_names_eq_nil (List.prefix_nil.1 (unnamed ▸ front))
  · next named =>
    rw [List.isEmpty_iff] at named
    have front := List.dropLast_prefix here.names
    have shorter : here.names.dropLast.length < here.names.length := by
      rw [List.length_dropLast]
      have := List.length_pos_iff.2 named
      omega
    constructor
    · intro names further _
      refine reached names (further.trans front) ?_
      rintro rfl
      exact Nat.not_lt.2 further.length_le shorter
    · exact reached _ front fun same => Nat.lt_irrefl _ (same ▸ shorter)

theorem Reaches.enter (reached : tree.Reaches here) (directory : tree.node? here = some .directory)
    (name : Text) : tree.Reaches (here.enter name) := by
  intro names front shorter
  rcases List.prefix_concat_iff.1 front with whole | front
  · exact absurd whole shorter
  · by_cases whole : names = here.names
    · rw [whole]
      exact directory
    · exact reached names front whole

theorem reaches_of_walk {names : List Text} (reached : tree.Reaches here)
    (walked : tree.walk here names = .ok place) : tree.Reaches place := by
  induction names generalizing here with
  | nil => exact Except.ok.inj walked ▸ reached
  | cons name names ih =>
    obtain ⟨directory, ⟨-, rest⟩ | ⟨-, -, rest⟩⟩ := walk_cons_eq_ok_iff.1 walked
    · exact ih reached.leave.1 rest
    · exact ih (reached.enter directory name) rest

theorem exists_walk_of_append {names onward : List Text}
    (walked : tree.walk here (names ++ onward) = .ok place) :
    ∃ between, tree.walk here names = .ok between ∧ tree.walk between onward = .ok place := by
  induction names generalizing here with
  | nil => exact ⟨here, rfl, walked⟩
  | cons name names ih =>
    obtain ⟨directory, ⟨up, rest⟩ | ⟨down, short, rest⟩⟩ := walk_cons_eq_ok_iff.1 walked
    · obtain ⟨between, first, second⟩ := ih rest
      exact ⟨between, walk_cons_eq_ok_iff.2 ⟨directory, .inl ⟨up, first⟩⟩, second⟩
    · obtain ⟨between, first, second⟩ := ih rest
      exact ⟨between, walk_cons_eq_ok_iff.2 ⟨directory, .inr ⟨down, short, first⟩⟩, second⟩

theorem walk_singleton {name : Text} (walked : tree.walk here [name] = .ok place) :
    tree.node? here = some .directory ∧ (place = here.leave ∨ place = here.enter name) := by
  obtain ⟨directory, ⟨-, rest⟩ | ⟨-, -, rest⟩⟩ := walk_cons_eq_ok_iff.1 walked
  · exact ⟨directory, .inl (Except.ok.inj rest).symm⟩
  · exact ⟨directory, .inr (Except.ok.inj rest).symm⟩

/-- The parent of a path leads to a directory, from which the last name leads on. -/
theorem locate_parent (located : tree.locate path = .ok place) (named : path.parts ≠ []) :
    ∃ directory, tree.locate path.parent = .ok directory ∧
      tree.walk directory [path.name] = .ok place := by
  obtain ⟨noNull, short, walked⟩ := locate_eq_ok_iff.1 located
  have parts : path.parts = path.parent.parts ++ [path.name] := by
    rw [Path.parent, Path.name, List.getLast?_eq_some_getLast named, Option.getD_some,
      List.dropLast_append_getLast]
  rw [parts] at walked
  obtain ⟨directory, before, last⟩ := exists_walk_of_append walked
  refine ⟨directory, locate_eq_ok_iff.2 ⟨?_, ?_, before⟩, last⟩
  · rcases path.toText_parent with dot | front
    · simp [dot]
    · exact fun null => noNull (front.mem null)
  · rcases path.toText_parent with dot | front
    · rw [dot]
      decide
    · exact Nat.le_trans (byteCount_le front) short

theorem parts_ne_nil_of_locate (located : tree.locate path = .ok place)
    (file : tree.node? place ≠ some .directory) : path.parts ≠ [] := by
  intro unnamed
  have walked := (locate_eq_ok_iff.1 located).2.2
  rw [unnamed] at walked
  exact file (Except.ok.inj walked ▸ node?_of_names_eq_nil rfl)

/-- What is no directory is in a directory under the last name of its path. -/
theorem eq_enter_of_locate (located : tree.locate path = .ok place)
    (file : tree.node? place ≠ some .directory) :
    ∃ directory : Place, place = directory.enter path.name := by
  obtain ⟨directory, before, last⟩ :=
    locate_parent located (parts_ne_nil_of_locate located file)
  have start : tree.Reaches (startOf path) := fun names front shorter =>
    absurd (List.prefix_nil.1 front) shorter
  have reached := reaches_of_walk start (locate_eq_ok_iff.1 before).2.2
  -- A double dot at the end would lead to a directory.
  rcases (walk_singleton last).2 with rfl | entered
  · exact absurd reached.leave.2 file
  · exact ⟨directory, entered⟩

/-! ## Growing -/

/-- Whether everything in a tree is in another tree as well. -/
def Grows (tree larger : FileTree) : Prop :=
  ∀ place node, tree.node? place = some node → larger.node? place = some node

theorem Grows.refl (tree : FileTree) : tree.Grows tree :=
  fun _ _ there => there

theorem Grows.trans {first second third : FileTree} (on : first.Grows second)
    (further : second.Grows third) : first.Grows third :=
  fun place node there => further place node (on place node there)

theorem grows_insert (free : tree.node? place = none) : tree.Grows (tree.insert place new) := by
  intro other node there
  refine node?_insert_of_ne ?_ there
  rintro rfl
  simp [free] at there

theorem grows_of_makeDirectory (made : tree.makeDirectory path = .ok larger) :
    tree.Grows larger := by
  rw [makeDirectory] at made
  split at made
  · simp at made
  · split at made
    · simp at made
    · next free =>
      obtain rfl := Except.ok.inj made
      exact grows_insert (by simpa using free)

theorem grows_ensureDirectory (tree : FileTree) (path : Path) :
    tree.Grows (tree.ensureDirectory path).tree := by
  rw [ensureDirectory]
  split
  · next made => exact grows_of_makeDirectory made
  · split <;> exact .refl tree

theorem grows_ensureAlong (tree : FileTree) (root : Text) (levels : Nat) (names : List Text) :
    tree.Grows (tree.ensureAlong root levels names).tree := by
  induction names generalizing levels with
  | nil => exact grows_ensureDirectory tree _
  | cons name above ih =>
    rw [ensureAlong]
    dsimp only
    split
    · next made => exact grows_of_makeDirectory made
    · split
      · exact .refl tree
      · split
        · exact ih _
        · exact (ih _).trans (grows_ensureDirectory _ _)
    · exact grows_ensureDirectory tree _

/-- Nothing is made where a directory is. -/
theorem ensureDirectories_of_directory (located : tree.locate path = .ok place)
    (there : tree.node? place = some .directory) : tree.ensureDirectories path = ⟨tree, none⟩ := by
  have taken {path : Path} (located : tree.locate path = .ok place) :
      tree.makeDirectory path = .error .alreadyThere := by
    rw [makeDirectory, located]
    simp [there]
  have ensured : tree.ensureDirectory path = ⟨tree, none⟩ := by
    rw [ensureDirectory, taken located, lookup_of_locate located, there]
  rw [ensureDirectories]
  cases names : path.parts.reverse with
  | nil =>
    have bare : path = ⟨path.root, []⟩ := by
      rw [← List.reverse_eq_nil_iff.1 names]
    rw [ensureAlong, ← bare, ensured]
  | cons name above =>
    have whole : path = ⟨path.root, (name :: above).reverse⟩ := by
      rw [← names, List.reverse_reverse]
    rw [ensureAlong, ← whole, taken located]
    exact ensured

/-! ## Storing a file -/

/-- Gives the file at a path new contents, and makes the directories that it needs. -/
def store (tree : FileTree) (path : Path) (contents : Bytes) : Preparation :=
  let prepared := tree.ensureDirectories path.parent
  if prepared.failure.isSome then prepared
  else
    match prepared.tree.write path contents with
    | .error obstacle => ⟨prepared.tree, some (obstacle, path)⟩
    | .ok written => ⟨written, none⟩

/-- What a tree is like after contents were stored at a path, which leads to `place`. -/
structure Stored (tree after : FileTree) (path : Path) (contents : Bytes) (place : Place) :
    Prop where
  located : after.locate path = .ok place
  written : after.node? place = some (.file contents)
  free : tree.node? place ≠ some .directory
  others : ∀ other node, other ≠ place → tree.node? other = some node →
    after.node? other = some node

theorem keepsDirectories_insert (free : tree.node? place ≠ some .directory) :
    tree.KeepsDirectories (tree.insert place new) := by
  intro other there
  refine node?_insert_of_ne ?_ there
  rintro rfl
  exact free there

theorem stored_of_write (written : tree.write path contents = .ok after) :
    ∃ place, tree.Stored after path contents place := by
  rw [write] at written
  split at written
  · simp at written
  · next place located =>
    split at written
    · simp at written
    · next free =>
      obtain rfl := Except.ok.inj written
      exact ⟨place, (keepsDirectories_insert free).locate located,
        node?_insert_self (names_ne_nil_of_node? free), free,
        fun _ _ apart there => node?_insert_of_ne apart there⟩

theorem Stored.of_grows (grows : tree.Grows larger)
    (stored : larger.Stored after path contents place) :
    tree.Stored after path contents place where
  located := stored.located
  written := stored.written
  free := fun there => stored.free (grows _ _ there)
  others := fun other node apart there => stored.others other node apart (grows _ _ there)

theorem stored_of_store (done : (tree.store path contents).failure = none) :
    ∃ place, tree.Stored (tree.store path contents).tree path contents place := by
  have grows := grows_ensureAlong tree path.parent.root levelLimit path.parent.parts.reverse
  rw [← ensureDirectories] at grows
  simp only [store] at done ⊢
  split at done
  · next failed => simp [done] at failed
  · next prepared =>
    rw [if_neg prepared]
    split at done
    · simp at done
    · next written =>
      obtain ⟨place, stored⟩ := stored_of_write written
      exact ⟨place, stored.of_grows grows⟩

theorem write_of_write {others : Bytes} (written : tree.write path contents = .ok after) :
    ∃ after, tree.write path others = .ok after := by
  rw [write] at written ⊢
  split at written
  · simp at written
  · split at written
    · simp at written
    · next free => exact ⟨_, if_neg free⟩

/-- Whether contents can be stored does not depend on them. -/
theorem store_of_store {others : Bytes} (done : (tree.store path contents).failure = none) :
    (tree.store path others).failure = none := by
  simp only [store] at done ⊢
  split at done
  · next failed => rw [if_pos failed, done]
  · next prepared =>
    split at done
    · simp at done
    · next written =>
      obtain ⟨after, written⟩ := write_of_write written
      rw [if_neg prepared, written]

/-- A file that can be read can be given other contents. -/
theorem store_of_read {old : Bytes} (readable : tree.read path = .ok old) :
    (tree.store path contents).failure = none := by
  obtain ⟨place, located, there⟩ := read_eq_ok_iff.1 readable
  have file : tree.node? place ≠ some .directory := by simp [there]
  obtain ⟨directory, before, last⟩ :=
    locate_parent located (parts_ne_nil_of_locate located file)
  rw [store, ensureDirectories_of_directory before (walk_singleton last).1]
  simp [write, located, file]

namespace Stored

theorem keepsDirectories (stored : tree.Stored after path contents place) :
    tree.KeepsDirectories after := by
  intro other there
  refine stored.others other _ ?_ there
  rintro rfl
  exact stored.free there

theorem read (stored : tree.Stored after path contents place) : after.read path = .ok contents :=
  read_eq_ok_iff.2 ⟨place, stored.located, stored.written⟩

theorem lookup (stored : tree.Stored after path contents place) :
    after.lookup path = .ok (some (.file contents)) := by
  rw [lookup_of_locate stored.located, stored.written]

/-- A path that leads to a file that was stored has its last name. -/
theorem name_of_locate {other : Path} (stored : tree.Stored after path contents place)
    (located : after.locate other = .ok place) : other.name = path.name := by
  have file : after.node? place ≠ some .directory := by simp [stored.written]
  obtain ⟨first, entered⟩ := eq_enter_of_locate stored.located file
  obtain ⟨second, entered'⟩ := eq_enter_of_locate located file
  exact Place.name_eq_of_enter_eq (entered'.symm.trans entered)

/-- Other files are read as before. -/
theorem read_other {other : Path} {old : Bytes} (stored : tree.Stored after path contents place)
    (readable : tree.read other = .ok old) (apart : after.locate other ≠ .ok place) :
    after.read other = .ok old := by
  obtain ⟨elsewhere, located, there⟩ := read_eq_ok_iff.1 readable
  have still := stored.keepsDirectories.locate located
  refine read_eq_ok_iff.2 ⟨elsewhere, still, stored.others elsewhere _ ?_ there⟩
  rintro rfl
  exact apart still

end Stored

end FileTree

end Diglot
