import Diglot.Glossary
import Diglot.Text.Blank
import Diglot.Text.Lines

/-!
# Library declarations

Declarations pair a localized name with a primary one: by an alias, `typealias l = p` with or
without an access modifier, or by a comment, `// mapping: l = p`. A glossary is gathered from them
in order; a declaration that repeats a symbol is left out.
-/

set_option autoImplicit false

namespace Diglot.Library

/-- The words that may stand before an alias. -/
def accessModifiers : List Text :=
  [['p', 'u', 'b', 'l', 'i', 'c', ' '],
   ['i', 'n', 't', 'e', 'r', 'n', 'a', 'l', ' '],
   ['p', 'r', 'i', 'v', 'a', 't', 'e', ' '],
   ['f', 'i', 'l', 'e', 'p', 'r', 'i', 'v', 'a', 't', 'e', ' '],
   ['o', 'p', 'e', 'n', ' ']]

def aliasHeader : Text :=
  ['t', 'y', 'p', 'e', 'a', 'l', 'i', 'a', 's', ' ']

def mappingHeader : Text :=
  ['/', '/', ' ', 'm', 'a', 'p', 'p', 'i', 'n', 'g', ':']

/-- What stands between the two names. -/
def equals : Text :=
  [' ', '=', ' ']

/-- The pair of names around the only equals sign. There is none if a side is empty or generic. -/
def body? (text : Text) : Option Entry :=
  match Text.cutAt equals text with
  | none => none
  | some (before, after) =>
    let localized := Text.strip before
    let primary := Text.strip after
    if (Text.cutAt equals after).isSome then none
    else if localized.isEmpty || primary.isEmpty then none
    else if localized.contains '<' || primary.contains '<' then none
    else some ⟨localized, primary⟩

/-- A pair of names is what stands around the equals sign, and neither side is empty. -/
theorem body?_eq_some {text : Text} {entry : Entry} (read : body? text = some entry) :
    ∃ before after, Text.cutAt equals text = some (before, after) ∧
      entry = ⟨Text.strip before, Text.strip after⟩ ∧
      entry.localized ≠ [] ∧ entry.primary ≠ [] := by
  unfold body? at read
  split at read
  · simp at read
  · next before after cut =>
    dsimp only at read
    split at read
    · simp at read
    · split at read
      · simp at read
      · next spelled =>
        split at read
        · simp at read
        · obtain rfl := Option.some.inj read
          refine ⟨before, after, cut, rfl, ?_⟩
          simpa using spelled

def withoutModifier (text : Text) : Text :=
  (accessModifiers.findSome? fun modifier => Text.after? modifier text).getD text

def entryOfLine? (line : Text) : Option Entry :=
  let stripped := Text.strip line
  match Text.after? mappingHeader stripped with
  | some mapping => body? (Text.strip mapping)
  | none =>
    match Text.after? aliasHeader (withoutModifier stripped) with
    | some rest => body? rest
    | none => none

/-- The entries that a text declares, in order; they need not be one to one. -/
def declared (text : Text) : List Entry :=
  (Text.lines text).filterMap entryOfLine?

/-- A glossary gathered from declarations, and the entries that it left out. -/
structure Gathered where
  glossary : Glossary
  skipped : List Entry

/-- Enters declarations into a glossary one after another; those that repeat a symbol are left
out. -/
def gather (glossary : Glossary) : List Entry → Gathered
  | [] => ⟨glossary, []⟩
  | entry :: entries =>
    match glossary.add entry with
    | .ok larger => gather larger entries
    | .error _ =>
      let rest := gather glossary entries
      { rest with skipped := entry :: rest.skipped }

def derive (texts : List Text) : Gathered :=
  gather .empty (texts.flatMap declared)

end Diglot.Library
