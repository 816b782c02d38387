import Diglot.Glossary
import Diglot.Text.Blank
import Diglot.Text.Lines

/-!
# Project dictionaries

A project dictionary is a text of lines. A line that is blank or starts with a number sign does not
count. An unindented line opens or closes the section of identifiers, or declares the tier; an
indented line in the section is an entry `localized: primary`, with or without a remark after it.
-/

set_option autoImplicit false

namespace Diglot.Dictionary

def sectionHeader : Text :=
  ['i', 'd', 'e', 'n', 't', 'i', 'f', 'i', 'e', 'r', 's', ':']

def tierHeader : Text :=
  ['t', 'i', 'e', 'r', ':']

def projectTier : Text :=
  ['p', 'r', 'o', 'j', 'e', 'c', 't']

/-- What a remark at the end of a line starts with. -/
def remark : Text :=
  [' ', '#']

/-- Whether a line counts: it is not blank and no comment. -/
def isSignificant (line : Text) : Bool :=
  match Text.strip line with
  | [] => false
  | c :: _ => c != '#'

def isIndented (line : Text) : Bool :=
  match line with
  | c :: _ => c == ' ' || c == '\t'
  | [] => false

/-- A text without its remark and without blanks at its ends. -/
def withoutRemark (text : Text) : Text :=
  Text.strip (Text.before remark text)

/-- The entry of a line: what stands before its first colon and after it. There is none if a side
is empty. -/
def entryOfLine? (line : Text) : Option Entry :=
  match Text.cutAt [':'] (Text.strip line) with
  | none => none
  | some (before, after) =>
    let localized := Text.strip before
    let primary := withoutRemark after
    if localized.isEmpty || primary.isEmpty then none else some ⟨localized, primary⟩

/-- The entries of significant lines, the first of which stands inside the section or not. -/
def sectionEntries (inside : Bool) : List Text → List Entry
  | [] => []
  | line :: lines =>
    if isIndented line then
      if inside then (entryOfLine? line).toList ++ sectionEntries inside lines
      else sectionEntries inside lines
    else sectionEntries (sectionHeader.isPrefixOf line) lines

def lineTier? (line : Text) : Option Text :=
  if isIndented line then none else (Text.after? tierHeader line).map withoutRemark

def significantLines (text : Text) : List Text :=
  (Text.lines text).filter isSignificant

/-- The entries of a project dictionary in order; they need not be one to one. -/
def entries (text : Text) : List Entry :=
  sectionEntries false (significantLines text)

/-- The tier that a project dictionary declares; the last declaration counts. -/
def declaredTier? (text : Text) : Option Text :=
  ((significantLines text).filterMap lineTier?).getLast?

section Rendering

variable {γ : Type} (point : Char → γ)

/-- One entry as a line; `point` gives the characters between the symbols. -/
def entryLineOf (entry : Entry (List γ)) : List γ :=
  [' ', ' '].map point ++ entry.localized ++ [':', ' '].map point ++ entry.primary ++ [point '\n']

/-- Entries as a project dictionary, with `point` for the characters around the symbols. -/
def renderOf (entries : List (Entry (List γ))) : List γ :=
  (tierHeader ++ [' '] ++ projectTier ++ ['\n'] ++ sectionHeader ++ ['\n']).map point ++
    entries.flatMap (entryLineOf point)

end Rendering

def entryLine (entry : Entry) : Text :=
  entryLineOf id entry

def render (entries : List Entry) : Text :=
  renderOf id entries

def renderRaw (entries : List (Entry RawText)) : RawText :=
  renderOf .char entries

theorem renderRaw_map_raw (entries : List Entry) :
    renderRaw (entries.map Entry.raw) = (render entries).raw := by
  simp [renderRaw, render, renderOf, entryLineOf, Text.raw, Entry.raw, Entry.map,
    List.flatMap_map, List.map_flatMap]

end Diglot.Dictionary
