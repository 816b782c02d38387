import Diglot.Command.Lexicon
import Diglot.Proofs.KeptResults
import Diglot.Proofs.Sessions
import Mathlib.Data.List.Sort

/-!
# Uncovered names

The report of uncovered names is a set: an ascending list is determined by its members
(`ascending_congr`), so the report says which names some source has and the lexicon does not know,
and nothing of the order in which the sources were read. The union of two reports is the report of
both lists of sources (`uncovered_append`).

The command reads localized sources and the others as two groups, each in its own way, and joins
the two reports. The names that it lists are those that are uncovered in some file
(`does_scan`).
-/

set_option autoImplicit false

namespace Diglot

/-! ## Ascending lists -/

section Ascending

variable {α : Type} [LT α] [DecidableLT α] [DecidableEq α]
  [Trans (fun a b : α => a < b) (fun a b : α => a < b) (fun a b : α => a < b)]
  [Std.Trichotomous (fun a b : α => a < b)]

theorem pairwise_insertAscending (value : α) {values : List α}
    (ordered : values.Pairwise (· < ·)) : (insertAscending value values).Pairwise (· < ·) := by
  induction values with
  | nil => exact List.pairwise_singleton _ value
  | cons other others ih =>
    obtain ⟨least, tail⟩ := List.pairwise_cons.1 ordered
    unfold insertAscending
    split
    · next before =>
      apply List.pairwise_cons.2
      refine ⟨fun x member => ?_, ordered⟩
      rcases List.mem_cons.1 member with same | later
      · exact same ▸ before
      · exact Trans.trans before (least x later)
    · next notBefore =>
      split
      · exact ordered
      · next different =>
        apply List.pairwise_cons.2
        refine ⟨fun x member => ?_, ih tail⟩
        rcases mem_insertAscending.1 member with same | later
        · have after := trichotomous_of (fun a b : α => a < b) value other
          exact same ▸ (after.resolve_left notBefore).resolve_left different
        · exact least x later

theorem pairwise_ascending (values : List α) : (ascending values).Pairwise (· < ·) := by
  induction values with
  | nil => exact .nil
  | cons value values ih => exact pairwise_insertAscending value ih

variable [Std.Irrefl (fun a b : α => a < b)] [Std.Antisymm (fun a b : α => a < b)]

/-- Lists with the same members have the same ascending list. -/
theorem ascending_congr {a b : List α} (same : ∀ x, x ∈ a ↔ x ∈ b) :
    ascending a = ascending b := by
  apply (pairwise_ascending a).eq_of_mem_iff (pairwise_ascending b)
  intro x
  rw [mem_ascending, mem_ascending, same]

theorem ascending_append (a b : List α) :
    ascending (a ++ b) = ascending (ascending a ++ ascending b) := by
  apply ascending_congr
  intro x
  simp only [List.mem_append, mem_ascending]

end Ascending

/-! ## The report -/

variable {lexicon : Lexicon} {localized : Bool} {name : Text} {sources : List Text}

/-- A source has the name as an identifier of two characters or more, and the lexicon knows it in
neither direction. -/
def Lexicon.Misses (lexicon : Lexicon) (localized : Bool) (source name : Text) : Prop :=
  2 ≤ name.length ∧
    (∃ token ∈ scan localized source,
      token.lexeme.kind = .identifier ∧ token.lexeme.text = name) ∧
    ∀ direction, lexicon.counterpart? direction name = none

theorem Lexicon.knows_eq_false_iff :
    lexicon.knows name = false ↔ ∀ direction, lexicon.counterpart? direction name = none := by
  unfold Lexicon.knows
  rw [Bool.or_eq_false_iff, Option.isSome_eq_false_iff, Option.isSome_eq_false_iff,
    Option.isNone_iff_eq_none, Option.isNone_iff_eq_none]
  constructor
  · intro unknown direction
    cases direction with
    | toPrimary => exact unknown.1
    | toLocalized => exact unknown.2
  · intro unknown
    exact ⟨unknown .toPrimary, unknown .toLocalized⟩

theorem mem_uncoveredIn_iff {source : Text} :
    name ∈ uncoveredIn lexicon localized source ↔ lexicon.Misses localized source name := by
  unfold uncoveredIn Lexicon.Misses
  rw [← map_lexeme_scan, ← Lexicon.knows_eq_false_iff]
  simp only [List.mem_map, List.mem_filter, Lexeme.isUncovered, Bool.and_eq_true,
    decide_eq_true_eq, Bool.not_eq_true']
  constructor
  · intro ⟨lexeme, ⟨⟨token, scanned, same⟩, ⟨identifier, long⟩, unknown⟩, text⟩
    subst same text
    exact ⟨long, ⟨token, scanned, identifier, rfl⟩, unknown⟩
  · intro ⟨long, ⟨token, scanned, identifier, text⟩, unknown⟩
    subst text
    exact ⟨token.lexeme, ⟨⟨token, scanned, rfl⟩, ⟨identifier, long⟩, unknown⟩, rfl⟩

theorem mem_uncovered_iff :
    name ∈ uncovered lexicon localized sources ↔
      ∃ source ∈ sources, lexicon.Misses localized source name := by
  unfold uncovered
  simp only [mem_ascending, List.mem_flatMap, mem_uncoveredIn_iff]

/-- The report depends on which sources there are, not on their order or number. -/
theorem uncovered_congr {others : List Text} (same : ∀ source, source ∈ others ↔ source ∈ sources) :
    uncovered lexicon localized others = uncovered lexicon localized sources := by
  apply ascending_congr
  intro name
  simp only [List.mem_flatMap, same]

theorem uncovered_append (sources others : List Text) :
    uncovered lexicon localized (sources ++ others) =
      ascending (uncovered lexicon localized sources ++ uncovered lexicon localized others) := by
  unfold uncovered
  rw [List.flatMap_append, ascending_append]

/-! ## The command -/

namespace Command.Lexicon

variable {tree : FileTree} {files : List Path}

theorem readsOnly_sourcesOf (path : Path) : (sourcesOf path).ReadsOnly := by
  apply Session.ReadsOnly.bind fun _ => ⟨_, Session.does_nodeAt? path⟩
  intro node
  match node with
  | some .directory =>
    exact Session.ReadsOnly.bind (fun _ => ⟨_, Session.does_tree⟩) fun _ => Session.readsOnly_pure _
  | some (.file _) => exact Session.readsOnly_pure _
  | none => exact (Session.readsOnly_record _).bind fun _ => Session.readsOnly_pure _

/-- The names of one group are those that some file of the group misses. -/
theorem does_uncoveredOf (lexicon : Diglot.Lexicon) (mode : Mode)
    (readable : ∀ path ∈ files, ∃ text, tree.text path = .ok text) :
    ∃ names, (uncoveredOf lexicon mode files).Does tree (.ok names) tree ∧
      ∀ name, name ∈ names ↔ ∃ path ∈ files, Mode.ofPath path = mode ∧
        ∃ text, tree.text path = .ok text ∧ lexicon.Misses mode.hasMarkup text name := by
  have readableGroup : ∀ path ∈ files.filter (Mode.ofPath · = mode),
      ∃ text, tree.text path = .ok text :=
    fun path member => readable path (List.mem_filter.1 member).1
  obtain ⟨texts, reads, members⟩ := Session.does_readTexts readableGroup
  refine ⟨uncovered lexicon mode.hasMarkup texts, reads.bind (Session.does_pure _), ?_⟩
  intro name
  simp only [mem_uncovered_iff, members, List.mem_filter, decide_eq_true_eq]
  constructor
  · intro ⟨text, ⟨path, ⟨member, same⟩, found⟩, missed⟩
    exact ⟨path, member, same, text, found, missed⟩
  · intro ⟨path, member, same, text, found, missed⟩
    exact ⟨text, ⟨path, ⟨member, same⟩, found⟩, missed⟩

/-- Every file belongs to one of the two groups. -/
theorem exists_group_iff (holds : Path → Mode → Prop) :
    ((∃ path ∈ files, Mode.ofPath path = .localized ∧ holds path .localized) ∨
      ∃ path ∈ files, Mode.ofPath path = .hybrid ∧ holds path .hybrid) ↔
      ∃ path ∈ files, holds path (Mode.ofPath path) := by
  constructor
  · intro found
    rcases found with ⟨path, member, mode, held⟩ | ⟨path, member, mode, held⟩
    · exact ⟨path, member, mode ▸ held⟩
    · exact ⟨path, member, mode ▸ held⟩
  · intro ⟨path, member, held⟩
    by_cases suffix : path.suffix = localizedSuffix
    · have mode : Mode.ofPath path = .localized := if_pos suffix
      exact .inl ⟨path, member, mode, mode ▸ held⟩
    · have mode : Mode.ofPath path = .hybrid := if_neg suffix
      exact .inr ⟨path, member, mode, mode ▸ held⟩

/-- Where the lexicon, the files and their texts are there, the command lists in ascending order the
names that some file misses, each file read as its suffix says. -/
theorem does_scan {paths : List Path} {dictionary library : Setting Path}
    {lexicon : Diglot.Lexicon} {groups : List (List Path)}
    (loads : (Session.loadLexicon dictionary library).Does tree (.ok lexicon) tree)
    (collects : (paths.mapM sourcesOf).Does tree (.ok groups) tree)
    (readable : ∀ path ∈ groups.flatten, ∃ text, tree.text path = .ok text) :
    ∃ names : List Text,
      (scan paths dictionary library).Does tree
        (.ok (.record [("files", .nat groups.flatten.length),
          ("untranslated", .array (names.map .string))])) tree ∧
      names.Pairwise (· < ·) ∧
      ∀ name, name ∈ names ↔ ∃ path ∈ groups.flatten, ∃ text, tree.text path = .ok text ∧
        lexicon.Misses (Mode.ofPath path).hasMarkup text name := by
  obtain ⟨localizedNames, localizedRun, inLocalized⟩ :=
    does_uncoveredOf lexicon .localized readable
  obtain ⟨hybridNames, hybridRun, inHybrid⟩ := does_uncoveredOf lexicon .hybrid readable
  refine ⟨ascending (localizedNames ++ hybridNames), ?_, pairwise_ascending _, ?_⟩
  · exact loads.bind (collects.bind (localizedRun.bind (hybridRun.bind (Session.does_pure _))))
  · intro name
    rw [mem_ascending, List.mem_append, inLocalized, inHybrid]
    exact exists_group_iff fun path mode => ∃ text, tree.text path = .ok text ∧
      lexicon.Misses mode.hasMarkup text name

end Command.Lexicon

/-- The report of uncovered names ascends by code points and has exactly the names that some source
misses. So the order of the sources and their repetition do not matter, and the report of two lists
of sources is the ascending union of their reports. The command that reads localized files and
others in separate groups lists the names that some file misses. -/
theorem uncovered_exact (lexicon : Lexicon) (localized : Bool) (sources : List Text) :
    (uncovered lexicon localized sources).Pairwise (· < ·) ∧
    (∀ name, name ∈ uncovered lexicon localized sources ↔
      ∃ source ∈ sources, lexicon.Misses localized source name) ∧
    (∀ others : List Text, (∀ source, source ∈ others ↔ source ∈ sources) →
      uncovered lexicon localized others = uncovered lexicon localized sources) ∧
    (∀ others : List Text, uncovered lexicon localized (sources ++ others) =
      ascending (uncovered lexicon localized sources ++ uncovered lexicon localized others)) ∧
    ∀ (paths : List Path) (dictionary library : Setting Path) (workspace : Workspace)
      (groups : List (List Path)),
      ((Session.loadLexicon dictionary library).on workspace).1 = .ok lexicon →
      ((paths.mapM Command.Lexicon.sourcesOf).on workspace).1 = .ok groups →
      (∀ path ∈ groups.flatten, ∃ text, ((Session.readText path).on workspace).1 = .ok text) →
      ∃ names : List Text,
        ((Command.Lexicon.scan paths dictionary library).on workspace).1 =
          .ok (.record [("files", .nat groups.flatten.length),
            ("untranslated", .array (names.map .string))]) ∧
        names.Pairwise (· < ·) ∧
        ∀ name, name ∈ names ↔ ∃ path ∈ groups.flatten, ∃ text,
          ((Session.readText path).on workspace).1 = .ok text ∧
            lexicon.Misses (Mode.ofPath path).hasMarkup text name := by
  refine ⟨pairwise_ascending _, fun name => mem_uncovered_iff, fun others same =>
    uncovered_congr same, uncovered_append sources, ?_⟩
  intro paths dictionary library workspace groups loaded collected readable
  have text (path : Path) : ((Session.readText path).on workspace).1 = workspace.tree.text path :=
    (Session.does_readText path workspace rfl).1
  simp only [text] at readable ⊢
  have loads := (Session.readsOnly_loadLexicon dictionary library).does loaded
  have collects :=
    (Session.readsOnly_mapM Command.Lexicon.readsOnly_sourcesOf paths).does collected
  obtain ⟨names, does, ordered, members⟩ := Command.Lexicon.does_scan loads collects readable
  exact ⟨names, (does workspace rfl).1, ordered, members⟩

/-- A localized file and another one, with the same characters in a literal: they open an
interpolation in the first and are content in the second. -/
def twoGroups : Workspace where
  tree := Command.Convert.sourceTree
    [(["src", "a.gikh"], "\"/(ab)\" x cd"), (["src", "b.swift"], "\"/(ef)\" gh cd if")]

theorem uncovered_exact_twoGroups :
    let lexicon := Lexicon.forCompilation .empty
    let files := [Path.ofText "src/a.gikh".toList, Path.ofText "src/b.swift".toList]
    uncovered lexicon false ["b2 a1".toList, "a1 c".toList, "b2 a1".toList] =
        uncovered lexicon false ["a1 c".toList, "b2 a1".toList] ∧
      ∃ names : List Text,
        ((Command.Lexicon.scan [Path.ofText "src".toList] .absent .absent).on twoGroups).1 =
          .ok (.record [("files", .nat 2), ("untranslated", .array (names.map .string))]) ∧
        names.Pairwise (· < ·) ∧
        ∀ name, name ∈ names ↔ ∃ path ∈ files, ∃ text,
          ((Session.readText path).on twoGroups).1 = .ok text ∧
            lexicon.Misses (Mode.ofPath path).hasMarkup text name := by
  intro lexicon files
  obtain ⟨-, -, reordered, -, command⟩ :=
    uncovered_exact lexicon false ["a1 c".toList, "b2 a1".toList]
  have collected : ((([Path.ofText "src".toList].mapM Command.Lexicon.sourcesOf).on twoGroups).1 =
      .ok [files]) := eq_ok_of_toOption (by decide +kernel)
  have first : ((Session.readText (Path.ofText "src/a.gikh".toList)).on twoGroups).1 =
      .ok "\"/(ab)\" x cd".toList := eq_ok_of_toOption (by decide +kernel)
  have second : ((Session.readText (Path.ofText "src/b.swift".toList)).on twoGroups).1 =
      .ok "\"/(ef)\" gh cd if".toList := eq_ok_of_toOption (by decide +kernel)
  refine ⟨reordered _ ?_, command _ .absent .absent twoGroups [files] rfl collected ?_⟩
  · simp [or_comm]
  · intro path member
    rcases List.mem_pair.1 member with same | same
    · exact ⟨_, same ▸ first⟩
    · exact ⟨_, same ▸ second⟩

end Diglot
