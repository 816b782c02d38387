/-!
# Text

A text is the list of its characters. Offsets and lengths count characters, and two texts are
equal exactly when their characters are; nothing is normalised.

This module holds the searches that the dictionary formats use. `cutAt` finds the first occurrence
of a separator, and `cutAt_eq_some` says that it loses nothing. `splitOn` cuts at every occurrence
of a character, which joining undoes (`join_splitOn`).
-/

set_option autoImplicit false

namespace Diglot

/-- A text as the list of its characters. -/
abbrev Text := List Char

namespace Text

def toStr (text : Text) : String :=
  String.ofList text

/-- What stands before and after the first occurrence of `separator`, if there is one. -/
def cutAt (separator : Text) : Text → Option (Text × Text)
  | [] => none
  | c :: cs =>
    if separator.isPrefixOf (c :: cs) then
      some ([], (c :: cs).drop separator.length)
    else
      (cutAt separator cs).map fun (before, after) => (c :: before, after)

/-- What stands before the first occurrence of `separator`: the whole text if there is none. -/
def before (separator text : Text) : Text :=
  match cutAt separator text with
  | some (front, _) => front
  | none => text

/-- A cut text is its two parts with the separator between them. -/
theorem cutAt_eq_some {separator text front back : Text}
    (h : cutAt separator text = some (front, back)) : text = front ++ separator ++ back := by
  induction text generalizing front back with
  | nil => simp [cutAt] at h
  | cons c cs ih =>
    rw [cutAt] at h
    split at h
    · next starts =>
      obtain ⟨rfl, rfl⟩ : [] = front ∧ (c :: cs).drop separator.length = back := by
        simpa using h
      obtain ⟨tail, rest⟩ := List.isPrefixOf_iff_prefix.1 starts
      rw [← rest]
      simp
    · obtain ⟨⟨f, b⟩, found, same⟩ := Option.map_eq_some_iff.1 h
      obtain ⟨rfl, rfl⟩ : c :: f = front ∧ b = back := by simpa using same
      simpa using ih found

/-- The rest of a text after `start`, if it begins so. -/
def after? (start text : Text) : Option Text :=
  if start.isPrefixOf text then some (text.drop start.length) else none

def join (separator : Text) : List Text → Text
  | [] => []
  | [piece] => piece
  | piece :: pieces => piece ++ separator ++ join separator pieces

/-- The pieces between the occurrences of a character, at least one. -/
def splitOn (separator : Char) : Text → List Text
  | [] => [[]]
  | c :: cs =>
    if c = separator then [] :: splitOn separator cs
    else match splitOn separator cs with
      | [] => [[c]]
      | piece :: rest => (c :: piece) :: rest

theorem splitOn_ne_nil (separator : Char) (text : Text) : splitOn separator text ≠ [] := by
  cases text with
  | nil => simp [splitOn]
  | cons c cs =>
    rw [splitOn]
    split
    · simp
    · split <;> simp

/-- The pieces, with what stood between them put back, are the text. -/
theorem join_splitOn (separator : Char) (text : Text) :
    join [separator] (splitOn separator text) = text := by
  induction text with
  | nil => rfl
  | cons c cs ih =>
    rw [splitOn]
    split
    · next here =>
      subst here
      match pieces : splitOn c cs with
      | [] => exact absurd pieces (splitOn_ne_nil c cs)
      | piece :: rest => simp [join, ← pieces, ih]
    · match pieces : splitOn separator cs with
      | [] => exact absurd pieces (splitOn_ne_nil separator cs)
      | [piece] => simpa [join, pieces] using ih
      | piece :: next :: rest => simpa [join, pieces] using ih

end Text

end Diglot
