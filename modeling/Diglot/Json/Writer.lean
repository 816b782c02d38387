import Diglot.Json.Basic

/-!
# Writing JSON

Values are written with an indent of two spaces per level and one item or member per line; an empty
array or object stays on its line. In strings, the quote, the backslash and the control characters
are escaped, and all else stands as it is.
-/

set_option autoImplicit false

namespace Diglot.Json

def writtenChar (c : Char) : Text :=
  if c = '"' then ['\\', '"']
  else if c = '\\' then ['\\', '\\']
  else if c = '\x08' then ['\\', 'b']
  else if c = '\x0c' then ['\\', 'f']
  else if c = '\n' then ['\\', 'n']
  else if c = '\r' then ['\\', 'r']
  else if c = '\t' then ['\\', 't']
  else if c < ' ' then '\\' :: 'u' :: Text.hexadecimal 4 c.toNat
  else [c]

def writtenString (text : Text) : Text :=
  '"' :: text.flatMap writtenChar ++ ['"']

/-- The start of a new line at a level. -/
def newLine (level : Nat) : Text :=
  '\n' :: List.replicate (2 * level) ' '

mutual

/-- A value that begins at a level. -/
def written (level : Nat) : Json → Text
  | .null => ['n', 'u', 'l', 'l']
  | .bool true => ['t', 'r', 'u', 'e']
  | .bool false => ['f', 'a', 'l', 's', 'e']
  | .integer n => integerText n
  | .real x => x.text
  | .string text => writtenString text
  | .array [] => ['[', ']']
  | .array (item :: items) =>
    '[' :: newLine (level + 1) ++ written (level + 1) item ++ writtenItems (level + 1) items ++
      newLine level ++ [']']
  | .object [] => ['\x7b', '\x7d']
  | .object ((name, value) :: members) =>
    '\x7b' :: newLine (level + 1) ++ writtenString name ++ [':', ' '] ++
      written (level + 1) value ++ writtenMembers (level + 1) members ++ newLine level ++ ['\x7d']

/-- The items after the first. -/
def writtenItems (level : Nat) : List Json → Text
  | [] => []
  | item :: items => ',' :: newLine level ++ written level item ++ writtenItems level items

def writtenMembers (level : Nat) : List (Text × Json) → Text
  | [] => []
  | (name, value) :: members =>
    ',' :: newLine level ++ writtenString name ++ [':', ' '] ++ written level value ++
      writtenMembers level members

end

def write (value : Json) : Text :=
  written 0 value

end Diglot.Json
