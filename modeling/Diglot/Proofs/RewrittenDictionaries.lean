import Diglot.Proofs.AddedEntries
import Diglot.Proofs.DictionaryReading

/-!
# Dictionaries that are written anew

Every addition to a project dictionary writes down again what was read from it. What was read is
readable but need not be representable: right behind the colon, or behind another blank than a
space, a primary symbol may start with a number sign. The written form has a space there, and with
it the sign starts a remark. Such entries are lost, and no others (`rewritten_entries_iff`).
-/

set_option autoImplicit false

namespace Diglot

namespace Dictionary

theorem insideAfter_entryTexts (inside : Bool) (entries : List Entry) :
    insideAfter inside (entries.map entryText) = inside := by
  induction entries with
  | nil => rfl
  | cons entry entries ih => exact ih

theorem render_append (entries more : List Entry) :
    render (entries ++ more) = render entries ++ more.flatMap entryLine := by
  simp [render_eq]

theorem endsLine_render (entries : List Entry) : (render entries).EndsLine := by
  rcases List.eq_nil_or_concat' entries with rfl | ⟨front, entry, rfl⟩
  · decide
  · rw [render_append, List.flatMap_singleton, entryLine_eq, ← List.append_assoc,
      Text.endsLine_concat_iff]
    decide

/-- Whatever is written behind readable entries, they are read back as far as their primary symbols
do not start with a number sign. -/
theorem entries_render_append {entries : List Entry}
    (readable : ∀ entry ∈ entries, entry.Readable) (more : List Entry) :
    Dictionary.entries (render (entries ++ more)) =
      (entries.filter fun entry => entry.primary.head? ≠ some '#') ++
        sectionEntries true (significantLines (more.flatMap entryLine)) := by
  have inside : insideAfter false (significantLines (render entries)) = true := by
    rw [significantLines_render readable]
    exact insideAfter_entryTexts true entries
  rw [Dictionary.entries, render_append, significantLines_append (endsLine_render entries),
    sectionEntries_append, inside, ← Dictionary.entries, entries_render readable]

end Dictionary

namespace FileTree

variable {tree : FileTree} {path : Path} {text : Text}

/-- The project tier of a file that can be read holds the entries of its text. -/
theorem entries_of_project {existing : Glossary} (read : tree.text path = .ok text)
    (loaded : tree.project path = .ok existing) : existing.entries = Dictionary.entries text := by
  obtain ⟨contents, decoded, stored, -⟩ := text_eq_ok_iff.1 read
  obtain ⟨place, located, file⟩ := read_eq_ok_iff.1 stored
  rw [project, lookup_of_locate located, file, read] at loaded
  exact Glossary.ofEntries_eq_ok_iff.1 (mapError_eq_ok_iff.1 loaded)

/-- An entry joins the entries of the text at their end. -/
theorem entries_of_extended {entry : Entry RawText} {lexicon : Option (Lexicon RawText)}
    {tier : Glossary} (read : tree.text path = .ok text)
    (accepted : tree.extended path entry lexicon = .ok tier.raw) :
    tier.entries = Dictionary.entries text ++ [entry.toText] := by
  cases loaded : tree.project path with
  | error fault => simp [extended, loaded, bind, Except.bind] at accepted
  | ok existing =>
    obtain ⟨-, -, entries⟩ := (extended_eq_ok_iff loaded).1 accepted
    rw [Glossary.entries_raw, Glossary.entries_raw, entries_of_project read loaded] at entries
    simpa [Function.comp_def] using congrArg (List.map Entry.toText) entries

end FileTree

open Dictionary (render)

/-- What is written anew comes back exactly if no primary symbol starts with a number sign; other
entries come back in any case. So an addition keeps the entries that were there before it, at the
beginning and in order, but for those whose primary symbols start with a number sign. -/
theorem rewritten_entries_iff (text : Text) :
    (Dictionary.entries (render (Dictionary.entries text)) = Dictionary.entries text ↔
      ∀ entry ∈ Dictionary.entries text, entry.primary.head? ≠ some '#') ∧
    Dictionary.entries (render (Dictionary.entries text)) =
      (Dictionary.entries text).filter (fun entry => entry.primary.head? ≠ some '#') ∧
    ∀ (path : Path) (entry : Entry RawText) (lexicon : Option (Lexicon RawText))
      (before after : Workspace) (merged : Glossary RawText),
      before.tree.text path = .ok text →
      (Session.addEntry path entry lexicon).on before = (.ok merged, after) →
      ∃ written, after.tree.text path = .ok written ∧
        (Dictionary.entries text).filter (fun entry => entry.primary.head? ≠ some '#') <+:
          Dictionary.entries written := by
  have readable : ∀ entry ∈ Dictionary.entries text, entry.Readable :=
    fun entry => Dictionary.readable_of_mem_entries
  have back := Dictionary.entries_render readable
  refine ⟨?_, back, ?_⟩
  · rw [back, List.filter_eq_self]
    simp
  · intro path entry lexicon before after merged read added
    obtain ⟨extended, tier, rfl, place, stored⟩ :=
      Session.addEntry_eq_ok (congrArg Prod.fst added)
    rw [added] at stored
    have entries := FileTree.entries_of_extended read extended
    refine ⟨_, stored.text, ?_⟩
    rw [Dictionary.entries_withNewlines, entries, Dictionary.entries_render_append readable]
    exact List.prefix_append _ _

/-- Of two entries the one with a number sign right behind its colon is lost in an addition. -/
theorem rewritten_entries_signed :
    let dictionary := "tier: project\nidentifiers:\r\n  ab:#x\r\n\tcd:z#y\r\n".toList
    let tree := FileTree.empty.insertAt dictPath (.file (Text.Utf8.encode dictionary))
    ∃ text merged after, tree.text dictPath = .ok text ∧
      Dictionary.entries text = [⟨['a', 'b'], ['#', 'x']⟩, ⟨['c', 'd'], "z#y".toList⟩] ∧
      (Session.addEntry dictPath (Entry.raw ⟨['ש'], ['s']⟩) none).on { tree } =
        (.ok merged, after) ∧
      ∃ written, after.tree.text dictPath = .ok written ∧
        [⟨['c', 'd'], "z#y".toList⟩] <+: Dictionary.entries written := by
  intro dictionary tree
  let call := (Session.addEntry dictPath (Entry.raw ⟨['ש'], ['s']⟩) none).on { tree }
  have stored : (tree.text dictPath).toOption = some (Text.withNewlines dictionary) := by
    decide +kernel
  have read := eq_ok_of_toOption stored
  have entries : Dictionary.entries (Text.withNewlines dictionary) =
      [⟨['a', 'b'], ['#', 'x']⟩, ⟨['c', 'd'], "z#y".toList⟩] := by decide +kernel
  have accepted : call.1.toOption.isSome = true := by decide +kernel
  obtain ⟨merged, returned⟩ := Option.isSome_iff_exists.1 accepted
  have added : call = (.ok merged, call.2) := Prod.ext (eq_ok_of_toOption returned) rfl
  refine ⟨_, merged, call.2, read, entries, added, ?_⟩
  have kept := (rewritten_entries_iff _).2.2 _ _ _ _ _ _ read added
  rw [entries] at kept
  exact kept

/-- An entry that is read without a space before its number sign is not written so. -/
theorem rewritten_entry_lost_sign :
    let text := "tier: project\nidentifiers:\n  a:#b\n".toList
    Dictionary.entries text = [⟨['a'], ['#', 'b']⟩] ∧
      Dictionary.entries (render (Dictionary.entries text)) = [] := by
  decide +kernel

end Diglot
