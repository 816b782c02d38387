import Diglot.Dictionary.Library
import Diglot.Proofs.TextPieces
import Mathlib.Data.List.Basic

/-!
# Declarations that are gathered

Declarations are entered one after another, and one that shares a symbol with an earlier one that
was entered is left out; one that was left out stands in no later one's way. So the places of the
declarations that are kept are a greedy choice (`Greedy`), which settles what a library is: its
entries can be entered strictly, more texts only add to them, and it makes no difference how the
declarations are split over texts (`library_derivation`).
-/

set_option autoImplicit false

namespace Diglot

/-- Two entries share a symbol on a side. -/
def Entry.Meets (entry other : Entry) : Prop :=
  entry.localized = other.localized ∨ entry.primary = other.primary

instance (entry other : Entry) : Decidable (entry.Meets other) :=
  inferInstanceAs (Decidable (_ ∨ _))

theorem Glossary.conflictWith_eq_none_iff_apart {earlier : List Entry} {entry : Entry} :
    conflictWith earlier entry = none ↔ ∀ other ∈ earlier, ¬entry.Meets other := by
  rw [conflictWith_eq_none_iff]
  simp only [List.mem_map, not_exists, not_and, Entry.Meets, not_or]
  constructor
  · rintro ⟨localized, primary⟩ other member
    exact ⟨fun same => localized other member same.symm, fun same => primary other member same.symm⟩
  · intro apart
    exact ⟨fun other member same => (apart other member).1 same.symm,
      fun other member same => (apart other member).2 same.symm⟩

namespace Library

/-- A choice among entries, place by place: what is kept shares no symbol with an earlier entry that
is kept, and what is not kept shares a symbol with one. -/
structure Greedy (entries : List Entry) (keeps : Nat → Bool) : Prop where
  apart : ∀ place entry, entries[place]? = some entry → keeps place = true →
    ∀ earlier other, earlier < place → entries[earlier]? = some other → keeps earlier = true →
      ¬entry.Meets other
  repeated : ∀ place entry, entries[place]? = some entry → keeps place = false →
    ∃ earlier other, earlier < place ∧ entries[earlier]? = some other ∧ keeps earlier = true ∧
      entry.Meets other

/-- The entries at the chosen places, in order. -/
def chosen (entries : List Entry) (keeps : Nat → Bool) : List Entry :=
  (entries.zipIdx.filter fun placed => keeps placed.2).map Prod.fst

/-! ## One declaration after another -/

/-- Declarations are gathered in two parts as they are in one. -/
theorem gather_append (glossary : Glossary) (front back : List Entry) :
    (gather glossary (front ++ back)).glossary =
        (gather (gather glossary front).glossary back).glossary ∧
      (gather glossary (front ++ back)).skipped =
        (gather glossary front).skipped ++
          (gather (gather glossary front).glossary back).skipped := by
  induction front generalizing glossary with
  | nil => exact ⟨rfl, rfl⟩
  | cons entry front ih =>
    rw [List.cons_append, gather, gather]
    split
    · next larger _ => exact ih larger
    · exact ⟨(ih glossary).1, congrArg (entry :: ·) (ih glossary).2⟩

theorem gather_singleton (glossary : Glossary) (entry : Entry) :
    (gather glossary [entry]).glossary.entries =
        (if Glossary.conflictWith glossary.entries entry = none then glossary.entries ++ [entry]
          else glossary.entries) ∧
      (gather glossary [entry]).skipped =
        if Glossary.conflictWith glossary.entries entry = none then [] else [entry] := by
  rw [gather]
  split
  · next larger added =>
    have free : Glossary.conflictWith glossary.entries entry = none :=
      Glossary.conflictWith_of_append (Glossary.entries_add added)
    rw [if_pos free, if_pos free]
    exact ⟨Glossary.entries_add added, rfl⟩
  · next refused =>
    have known : Glossary.conflictWith glossary.entries entry ≠ none := by
      intro free
      obtain ⟨larger, added⟩ := Glossary.exists_add free
      simp [added] at refused
    rw [if_neg known, if_neg known]
    exact ⟨rfl, rfl⟩

/-- What is in a glossary stays at its beginning. -/
theorem entries_isPrefix_gather (glossary : Glossary) (entries : List Entry) :
    glossary.entries <+: (gather glossary entries).glossary.entries := by
  induction entries generalizing glossary with
  | nil => exact List.prefix_rfl
  | cons entry entries ih =>
    rw [gather]
    split
    · next larger added =>
      have enters : glossary.entries <+: larger.entries := by
        rw [Glossary.entries_add added]
        exact List.prefix_append _ _
      exact enters.trans (ih larger)
    · exact ih glossary

/-! ## The places that are kept -/

/-- The declaration at a place is kept if it has no conflict with what was gathered before it. -/
def keeps (entries : List Entry) (place : Nat) : Bool :=
  (entries[place]?).any fun entry =>
    (Glossary.conflictWith (gather .empty (entries.take place)).glossary.entries entry).isNone

/-- Whether a declaration is kept depends on those before it alone. -/
theorem keeps_append {front : List Entry} {place : Nat} (inFront : place < front.length)
    (back : List Entry) : keeps (front ++ back) place = keeps front place := by
  rw [keeps, keeps, List.getElem?_append_left inFront, List.take_append_of_le_length inFront.le]

theorem keeps_length (front back : List Entry) (entry : Entry) :
    keeps (front ++ entry :: back) front.length =
      (Glossary.conflictWith (gather .empty front).glossary.entries entry).isNone := by
  simp [keeps]

theorem chosen_concat (front : List Entry) (entry : Entry) (keeps : Nat → Bool) :
    chosen (front ++ [entry]) keeps =
      chosen front keeps ++ if keeps front.length then [entry] else [] := by
  rw [chosen, List.zipIdx_append, List.filter_append, List.map_append, ← chosen]
  cases kept : keeps front.length <;> simp [kept]

theorem chosen_congr {entries : List Entry} {keeps others : Nat → Bool}
    (same : ∀ place < entries.length, keeps place = others place) :
    chosen entries keeps = chosen entries others := by
  rw [chosen, chosen]
  refine congrArg (List.map Prod.fst) (List.filter_congr ?_)
  rintro ⟨entry, place⟩ member
  exact same place (by simpa using List.snd_lt_of_mem_zipIdx member)

theorem mem_chosen_iff {entries : List Entry} {keeps : Nat → Bool} {entry : Entry} :
    entry ∈ chosen entries keeps ↔ ∃ place, entries[place]? = some entry ∧ keeps place = true := by
  simp [chosen, List.mem_zipIdx_iff_getElem?]

/-- The declarations that are kept are entered in order, and the others are skipped in order. -/
theorem gather_eq_chosen (entries : List Entry) :
    (gather .empty entries).glossary.entries = chosen entries (keeps entries) ∧
      (gather .empty entries).skipped = chosen entries fun place => !keeps entries place := by
  induction entries using List.reverseRecOn with
  | nil => exact ⟨rfl, rfl⟩
  | append_singleton front entry ih =>
    have before (place : Nat) (inFront : place < front.length) :
        keeps (front ++ [entry]) place = keeps front place := keeps_append inFront [entry]
    have here := keeps_length front [] entry
    obtain ⟨glossary, skipped⟩ := gather_append .empty front [entry]
    obtain ⟨entered, left⟩ := gather_singleton (gather .empty front).glossary entry
    rw [glossary, skipped, entered, left, chosen_concat, chosen_concat, here, chosen_congr before,
      chosen_congr fun place inFront => congrArg (!·) (before place inFront), ← ih.1, ← ih.2]
    cases Glossary.conflictWith (gather .empty front).glossary.entries entry <;> simp

/-- What was gathered before a place are the declarations at earlier places that are kept. -/
theorem mem_gather_take_iff {entries : List Entry} {place : Nat} {other : Entry} :
    other ∈ (gather .empty (entries.take place)).glossary.entries ↔
      ∃ earlier, earlier < place ∧ entries[earlier]? = some other ∧
        keeps entries earlier = true := by
  rw [(gather_eq_chosen _).1, mem_chosen_iff]
  refine exists_congr fun earlier => ?_
  by_cases before : earlier < place
  · rw [List.getElem?_take_of_lt before, and_iff_right before]
    refine and_congr_right fun there => ?_
    have inFront : earlier < (entries.take place).length := by
      rw [List.length_take]
      exact lt_min before (List.getElem?_eq_some_iff.1 there).1
    rw [← keeps_append inFront (entries.drop place), List.take_append_drop]
  · have beyond : (entries.take place)[earlier]? = none :=
      List.getElem?_take_eq_none (Nat.le_of_not_lt before)
    rw [beyond]
    simp [before]

theorem greedy_keeps (entries : List Entry) : Greedy entries (keeps entries) := by
  have kept {place : Nat} {entry : Entry} (here : entries[place]? = some entry) :
      keeps entries place = true ↔
        ∀ other ∈ (gather .empty (entries.take place)).glossary.entries, ¬entry.Meets other := by
    rw [← Glossary.conflictWith_eq_none_iff_apart]
    simp [keeps, here]
  constructor
  · intro place entry here keptHere earlier other before there keptThere
    exact (kept here).1 keptHere other (mem_gather_take_iff.2 ⟨earlier, before, there, keptThere⟩)
  · intro place entry here skipped
    by_contra none
    refine absurd ((kept here).2 fun other member meets => none ?_) (by simp [skipped])
    obtain ⟨earlier, before, there, keptThere⟩ := mem_gather_take_iff.1 member
    exact ⟨earlier, other, before, there, keptThere, meets⟩

/-- A text of declarations can be split at every line break. -/
theorem declared_append {c : Char} (isBreak : Text.isLineBreak c = true) (front back : Text) :
    declared (front ++ c :: back) = declared front ++ declared back := by
  have skips : entryOfLine? [] = none := rfl
  unfold declared
  rw [Text.filterMap_lines skips, Text.filterMap_lines skips, Text.filterMap_lines skips,
    Text.filledLines_append isBreak, List.filterMap_append]

/-- A library is the greedy choice among all declarations of its texts: what is kept can be entered
strictly, and the rest is skipped. More texts leave it at the beginning of the larger library, and
declarations may be split over texts at any line. -/
theorem library_derivation (texts : List Text) :
    (∃ keeps, Greedy (texts.flatMap declared) keeps ∧
      Glossary.ofEntries (chosen (texts.flatMap declared) keeps) = .ok (derive texts).glossary ∧
      (derive texts).skipped = chosen (texts.flatMap declared) fun place => !keeps place) ∧
    (∀ more, (derive texts).glossary.entries <+: (derive (texts ++ more)).glossary.entries) ∧
    ∀ front back more,
      declared (front ++ '\n' :: back) = declared front ++ declared back ∧
        derive (texts ++ (front ++ '\n' :: back) :: more) =
          derive (texts ++ front :: back :: more) := by
  refine ⟨⟨keeps (texts.flatMap declared), greedy_keeps _, ?_, (gather_eq_chosen _).2⟩, ?_, ?_⟩
  · exact Glossary.ofEntries_eq_ok_iff.2 (gather_eq_chosen _).1
  · intro more
    rw [derive, derive, List.flatMap_append, (gather_append _ _ _).1]
    exact entries_isPrefix_gather _ _
  · intro front back more
    have split := declared_append (c := '\n') (by decide) front back
    refine ⟨split, ?_⟩
    simp only [derive, List.flatMap_append, List.flatMap_cons, split, List.append_assoc]

/-- The second declaration is left out, and the third may use its localized symbol. -/
example :
    let texts : List Text :=
      ["typealias ש = a\r\n// mapping: ם = a".toList, "typealias ם = b".toList]
    (derive texts).glossary.entries = [⟨['ש'], ['a']⟩, ⟨['ם'], ['b']⟩] := by decide +kernel

end Library

end Diglot
