import Diglot.Text.Blank
import Diglot.Text.Lines
import Mathlib.Data.List.Infix

/-!
# Pieces of a text

The searches of the dictionary formats give pieces of the text they search: a stripped text, a line,
what stands before a separator. A line holds no line break, and lines that are written one after
another are read back. Empty lines apart, a text that is cut at a line break has the lines of its
two parts, whichever line breaks meet there (`filledLines_append`).
-/

set_option autoImplicit false

namespace Diglot.Text

variable {text separator front back : Text} {c : Char}

/-! ## Two pieces after one another -/

/-- What stands in two lists after one another stands in the first or in the second. -/
theorem split_append {α : Type} {a b before after : List α} {x : α}
    (split : a ++ b = before ++ x :: after) :
    (∃ rest, a = before ++ x :: rest ∧ after = rest ++ b) ∨
      ∃ front, before = a ++ front ∧ b = front ++ x :: after := by
  rcases List.append_eq_append_iff.1 split with ⟨front, same, rest⟩ | ⟨front, same, rest⟩
  · exact .inr ⟨front, same, rest⟩
  · cases front with
    | nil => exact .inr ⟨[], by simpa using same.symm, by simpa using rest.symm⟩
    | cons y front =>
      obtain ⟨rfl, rfl⟩ := List.cons.inj rest
      exact .inl ⟨front, same, rfl⟩

theorem split_singleton {α : Type} {before after : List α} {x y : α}
    (split : [y] = before ++ x :: after) : before = [] ∧ x = y ∧ after = [] := by
  simpa [List.cons_eq_append_iff] using split

/-! ## Blanks at the ends -/

theorem stripRight_isPrefix (text : Text) : stripRight text <+: text := by
  have suffix := List.dropWhile_suffix isBlank (l := text.reverse)
  simpa [stripRight] using List.reverse_prefix.2 suffix

theorem strip_isInfix (text : Text) : strip text <:+: text :=
  (stripRight_isPrefix _).isInfix.trans (List.dropWhile_suffix _).isInfix

/-- What does not start with a blank keeps its start. -/
theorem dropWhile_isBlank (first : ∀ c ∈ text.head?, isBlank c = false) :
    text.dropWhile isBlank = text := by
  cases text with
  | nil => rfl
  | cons c cs => simp [first c (by simp)]

theorem stripRight_eq_self (last : ∀ c ∈ text.getLast?, isBlank c = false) :
    stripRight text = text := by
  rcases List.eq_nil_or_concat' text with rfl | ⟨front, c, rfl⟩
  · rfl
  · exact stripRight_concat (last c (by simp))

theorem isBlank_getLast?_stripRight (text : Text) :
    ∀ c ∈ (stripRight text).getLast?, isBlank c = false := by
  intro c last
  rw [stripRight, List.getLast?_reverse] at last
  simpa [Option.mem_def.1 last] using List.head?_dropWhile_not isBlank text.reverse

theorem isBlank_head?_dropWhile (text : Text) :
    ∀ c ∈ (text.dropWhile isBlank).head?, isBlank c = false := by
  intro c first
  simpa [Option.mem_def.1 first] using List.head?_dropWhile_not isBlank text

/-- A text is its own stripped text exactly if no blank stands at either end. -/
theorem strip_eq_self_iff :
    strip text = text ↔
      (∀ c ∈ text.head?, isBlank c = false) ∧ ∀ c ∈ text.getLast?, isBlank c = false := by
  constructor
  · intro same
    have whole : text.dropWhile isBlank = text := by
      refine (List.dropWhile_suffix isBlank).eq_of_length_le ?_
      calc text.length = (strip text).length := by rw [same]
        _ ≤ (text.dropWhile isBlank).length := (stripRight_isPrefix _).length_le
    have first := isBlank_head?_dropWhile text
    have last := isBlank_getLast?_stripRight (text.dropWhile isBlank)
    rw [whole] at first
    rw [← strip, same] at last
    exact ⟨first, last⟩
  · rintro ⟨first, last⟩
    rw [strip, dropWhile_isBlank first, stripRight_eq_self last]

/-- What is left of a text starts as the text does behind its blanks. -/
theorem head?_strip (left : strip text ≠ []) :
    (strip text).head? = (text.dropWhile isBlank).head? := by
  obtain ⟨tail, same⟩ := stripRight_isPrefix (text.dropWhile isBlank)
  rw [← strip] at same
  rw [← same, List.head?_append_of_ne_nil _ left]

theorem strip_strip (text : Text) : strip (strip text) = strip text := by
  rw [strip_eq_self_iff]
  refine ⟨?_, isBlank_getLast?_stripRight _⟩
  intro c first
  rw [head?_strip (by rintro none; simp [none] at first)] at first
  exact isBlank_head?_dropWhile text c first

/-! ## Before a separator -/

theorem before_isPrefix (separator text : Text) : before separator text <+: text := by
  rw [before]
  split
  · next found =>
    rw [cutAt_eq_some found, List.append_assoc]
    exact List.prefix_append _ _
  · exact List.prefix_rfl

theorem cutAt_eq_none_iff (some : separator ≠ []) :
    cutAt separator text = none ↔ ¬separator <:+: text := by
  induction text with
  | nil => simp [cutAt, some]
  | cons c cs ih =>
    rw [cutAt]
    split
    · next starts =>
      have here := List.isPrefixOf_iff_prefix.1 starts
      simpa using here.isInfix
    · next starts =>
      rw [Option.map_eq_none_iff, ih, List.infix_cons_iff, not_or]
      exact ⟨fun none => ⟨fun here => starts (List.isPrefixOf_iff_prefix.2 here), none⟩,
        fun none => none.2⟩

/-- The separator does not occur before its first occurrence. -/
theorem not_isInfix_of_cutAt (some : separator ≠ [])
    (found : cutAt separator text = .some (front, back)) : ¬separator <:+: front := by
  induction text generalizing front back with
  | nil => simp [cutAt] at found
  | cons c cs ih =>
    rw [cutAt] at found
    split at found
    · obtain ⟨rfl, -⟩ : [] = front ∧ _ = back := by simpa using found
      simpa using some
    · next starts =>
      obtain ⟨⟨f, b⟩, rest, same⟩ := Option.map_eq_some_iff.1 found
      obtain ⟨rfl, rfl⟩ : c :: f = front ∧ b = back := by simpa using same
      rw [List.infix_cons_iff, not_or]
      refine ⟨fun here => starts (List.isPrefixOf_iff_prefix.2 ?_), ih rest⟩
      rw [cutAt_eq_some rest]
      simpa using here.trans (List.prefix_append (c :: f) (separator ++ b))

theorem not_mem_of_cutAt (found : cutAt [c] text = .some (front, back)) : c ∉ front := by
  intro member
  refine not_isInfix_of_cutAt (by simp) found ?_
  obtain ⟨a, b, same⟩ := List.append_of_mem member
  exact ⟨a, b, by simp [same]⟩

theorem not_isInfix_before (some : separator ≠ []) : ¬separator <:+: before separator text := by
  rw [before]
  split
  · next found => exact not_isInfix_of_cutAt some found
  · next none => exact (cutAt_eq_none_iff some).1 none

theorem before_eq_self (none : ¬separator <:+: text) : before separator text = text := by
  have some : separator ≠ [] := by
    rintro rfl
    exact none List.nil_infix
  rw [before, (cutAt_eq_none_iff some).2 none]

/-- The first occurrence of a character that does not occur before it. -/
theorem cutAt_char (none : c ∉ front) : cutAt [c] (front ++ c :: back) = some (front, back) := by
  induction front with
  | nil => simp [cutAt]
  | cons d front ih =>
    obtain ⟨other, none⟩ : c ≠ d ∧ c ∉ front := by simpa using none
    rw [List.cons_append, cutAt, if_neg (by simp [List.isPrefixOf, other]), ih none]
    rfl

/-! ## Lines -/

/-- A line holds no line break. -/
theorem isLineBreak_of_mem_lines {line : Text} (member : line ∈ lines text) :
    ∀ c ∈ line, isLineBreak c = false := by
  fun_induction lines text generalizing line with
  | case1 => simp at member
  | case2 cs ih =>
    rcases List.mem_cons.1 member with rfl | member
    · simp
    · exact ih member
  | case3 c cs _ _ ih =>
    rcases List.mem_cons.1 member with rfl | member
    · simp
    · exact ih member
  | case4 c cs _ inside none ih =>
    obtain rfl : line = [c] := by simpa using member
    simpa using inside
  | case5 c cs _ inside first rest same ih =>
    rw [same] at ih
    rcases List.mem_cons.1 member with rfl | member
    · intro d inLine
      rcases List.mem_cons.1 inLine with rfl | inLine
      · simpa using inside
      · exact ih (by simp) d inLine
    · exact ih (List.mem_cons_of_mem _ member)

/-- A character that a line can hold goes to the front of the first line. -/
theorem lines_cons (inside : isLineBreak c = false) (cs : Text) :
    lines (c :: cs) = (c :: (lines cs).headD []) :: (lines cs).tail := by
  rw [lines, if_neg (by simp [inside])]
  · cases lines cs <;> rfl
  · rintro tail rfl
    simp [isLineBreak] at inside

theorem lines_break (isBreak : isLineBreak c = true) (other : c ≠ '\r') (cs : Text) :
    lines (c :: cs) = [] :: lines cs := by
  rw [lines, if_pos isBreak]
  exact fun tail same => absurd same other

theorem lines_return {cs : Text} (notFeed : ∀ tail, cs ≠ '\n' :: tail) :
    lines ('\r' :: cs) = [] :: lines cs := by
  rw [lines, if_pos (by decide)]
  exact fun tail _ same => notFeed tail same

/-- A text without line breaks before a line feed is a line of its own. -/
theorem lines_append_feed {line : Text} (inside : ∀ c ∈ line, isLineBreak c = false)
    (rest : Text) : lines (line ++ '\n' :: rest) = line :: lines rest := by
  induction line with
  | nil => exact lines_break (by decide) (by decide) rest
  | cons c cs ih =>
    rw [List.cons_append, lines_cons (inside c (by simp)),
      ih fun d member => inside d (List.mem_cons_of_mem _ member)]
    rfl

/-- A text has the same lines with line feeds for its line ends. -/
theorem lines_withNewlines (text : Text) : lines (withNewlines text) = lines text := by
  fun_induction withNewlines text with
  | case1 => rfl
  | case2 cs ih => rw [lines_break (by decide) (by decide), ih, lines]
  | case3 cs notFeed ih =>
    rw [lines_break (by decide) (by decide), ih, lines_return notFeed]
  | case4 c cs notPair notReturn ih =>
    cases isBreak : isLineBreak c with
    | true => rw [lines_break isBreak notReturn, lines_break isBreak notReturn, ih]
    | false => rw [lines_cons isBreak, lines_cons isBreak, ih]

/-! ## Lines that are not empty -/

def filledLines (text : Text) : List Text :=
  (lines text).filter (· ≠ [])

/-- A text has its empty lines besides, which a reader that skips them does not see. -/
theorem filter_lines {keeps : Text → Bool} (skips : keeps [] = false) (text : Text) :
    (lines text).filter keeps = (filledLines text).filter keeps := by
  rw [filledLines, List.filter_filter]
  refine List.filter_congr fun line _ => ?_
  cases line <;> simp [skips]

theorem filterMap_lines {α : Type} {read : Text → Option α} (skips : read [] = none) (text : Text) :
    (lines text).filterMap read = (filledLines text).filterMap read := by
  rw [filledLines, List.filterMap_filter]
  refine List.filterMap_congr fun line _ => ?_
  cases line <;> simp [skips]

/-- A line break in front ends an empty line; what follows are the lines behind it, or behind the
line feed that belongs to it. -/
theorem lines_of_break (isBreak : isLineBreak c = true) (cs : Text) :
    ∃ rest, lines (c :: cs) = [] :: rest ∧ rest.filter (· ≠ []) = filledLines cs := by
  by_cases isReturn : c = '\r'
  · subst isReturn
    by_cases feed : ∃ tail, cs = '\n' :: tail
    · obtain ⟨tail, rfl⟩ := feed
      refine ⟨lines tail, by rw [lines], ?_⟩
      rw [filledLines, lines_break (by decide) (by decide)]
      rfl
    · exact ⟨lines cs, lines_return (not_exists.1 feed), rfl⟩
  · exact ⟨lines cs, lines_break isBreak isReturn cs, rfl⟩

theorem filledLines_break (isBreak : isLineBreak c = true) (cs : Text) :
    filledLines (c :: cs) = filledLines cs := by
  obtain ⟨rest, opens, same⟩ := lines_of_break isBreak cs
  rw [filledLines, opens, ← same]
  rfl

/-- The first line goes up to the first line break. -/
theorem lines_eq_takeWhile (text : Text) :
    (lines text).headD [] = text.takeWhile (!isLineBreak ·) ∧
      (lines text).tail.filter (· ≠ []) = filledLines (text.dropWhile (!isLineBreak ·)) := by
  induction text with
  | nil => exact ⟨rfl, rfl⟩
  | cons c cs ih =>
    cases isBreak : isLineBreak c with
    | true =>
      obtain ⟨rest, opens, same⟩ := lines_of_break isBreak cs
      rw [List.takeWhile_cons_of_neg (by simp [isBreak]),
        List.dropWhile_cons_of_neg (by simp [isBreak]), filledLines_break isBreak, opens]
      exact ⟨rfl, same⟩
    | false =>
      rw [lines_cons isBreak]
      simpa [isBreak] using ih

theorem filledLines_cons (inside : isLineBreak c = false) (cs : Text) :
    filledLines (c :: cs) =
      (c :: cs.takeWhile (!isLineBreak ·)) :: filledLines (cs.dropWhile (!isLineBreak ·)) := by
  rw [filledLines, lines_cons inside, List.filter_cons, if_pos (by simp), (lines_eq_takeWhile cs).1,
    (lines_eq_takeWhile cs).2]

theorem takeWhile_append_stop {p : Char → Bool} (stop : p c = false) (front back : Text) :
    (front ++ c :: back).takeWhile p = front.takeWhile p ∧
      (front ++ c :: back).dropWhile p = front.dropWhile p ++ c :: back := by
  induction front with
  | nil => simp [stop]
  | cons d front ih =>
    cases goesOn : p d <;> simp [goesOn, ih]

/-- A text that is cut at a line break has the lines of its two parts, empty lines apart. -/
theorem filledLines_append (isBreak : isLineBreak c = true) (front back : Text) :
    filledLines (front ++ c :: back) = filledLines front ++ filledLines back := by
  induction size : front.length using Nat.strong_induction_on generalizing front with
  | _ size ih =>
    cases front with
    | nil => exact filledLines_break isBreak back
    | cons d front =>
      cases inside : isLineBreak d with
      | true =>
        rw [List.cons_append, filledLines_break inside, filledLines_break inside]
        exact ih front.length (by simp [← size]) front rfl
      | false =>
        -- The first line ends in `front` or at its end, where the line break stands.
        obtain ⟨first, rest⟩ := takeWhile_append_stop (p := (!isLineBreak ·)) (c := c)
          (by simp [isBreak]) front back
        have shorter := (List.dropWhile_suffix (l := front) (!isLineBreak ·)).length_le
        rw [List.cons_append, filledLines_cons inside, filledLines_cons inside, first, rest,
          ih _ (by simp only [← size, List.length_cons]; omega) _ rfl, List.cons_append]

/-- The text is empty or ends in a line break. -/
def EndsLine (text : Text) : Prop :=
  text.getLast?.all isLineBreak = true

instance (text : Text) : Decidable text.EndsLine :=
  inferInstanceAs (Decidable (_ = true))

theorem endsLine_concat_iff : EndsLine (text ++ [c]) ↔ isLineBreak c = true := by
  simp [EndsLine]

theorem filledLines_append_of_endsLine (ends : front.EndsLine) (back : Text) :
    filledLines (front ++ back) = filledLines front ++ filledLines back := by
  rcases List.eq_nil_or_concat' front with rfl | ⟨start, c, rfl⟩
  · rfl
  · have isBreak := endsLine_concat_iff.1 ends
    have whole : filledLines (start ++ [c]) = filledLines start :=
      (filledLines_append isBreak start []).trans (List.append_nil _)
    rw [List.append_assoc, List.singleton_append, filledLines_append isBreak, whole]

end Diglot.Text
