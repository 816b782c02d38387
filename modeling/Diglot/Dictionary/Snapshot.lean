import Diglot.Glossary
import Diglot.Json.Reader
import Diglot.Json.Writer
import Diglot.Text.Utf8

/-!
# Library snapshots

A snapshot is a JSON document that holds the entries of a library glossary: an object with the name
of the tier and a list of pairs.
-/

set_option autoImplicit false

namespace Diglot.Snapshot

/-- What keeps bytes from being a snapshot. -/
inductive Problem
  | invalidJson
  | noPairs
  | malformedPair (item : Json)

def Problem.message : Problem → String
  | .invalidJson => "invalid JSON snapshot"
  | .noPairs => "snapshot must be an object with a 'pairs' list"
  | .malformedPair item => s!"malformed snapshot pair: {item.shown}"

/-- How deep the values may nest in a value that a message quotes. -/
def quotedDepthLimit : Nat := 990

/-- Whether the problem can be put into words: a pair that nests too deep cannot be quoted. -/
def Problem.isQuotable : Problem → Bool
  | .malformedPair item => item.depth ≤ quotedDepthLimit
  | .invalidJson | .noPairs => true

def tierMember : Text :=
  ['t', 'i', 'e', 'r']

def tierName : Text :=
  ['l', 'i', 'b', 'r', 'a', 'r', 'y', '_', 's', 'y', 'm', 'b', 'o', 'l', 's']

def pairsMember : Text :=
  ['p', 'a', 'i', 'r', 's']

def pair (entry : Entry) : Json :=
  .array [.string entry.localized, .string entry.primary]

def document (entries : List Entry) : Json :=
  .object [(tierMember, .string tierName), (pairsMember, .array (entries.map pair))]

def encode (entries : List Entry) : Bytes :=
  Text.Utf8.encode (document entries).write

/-- The entry of a pair of two texts that are not empty. -/
def entryOf (item : Json) : Except Problem Entry :=
  match item with
  | .array [.string localized, .string primary] =>
    if localized.isEmpty || primary.isEmpty then .error (.malformedPair item)
    else .ok ⟨localized, primary⟩
  | _ => .error (.malformedPair item)

def entriesOf (document : Json) : Except Problem (List Entry) :=
  match document.member? pairsMember with
  | some (.array items) => items.mapM entryOf
  | _ => .error .noPairs

/-- The entries of the bytes of a snapshot; they need not be one to one. -/
def decode (bytes : Bytes) : Except Problem (List Entry) :=
  match Text.Utf8.decode bytes with
  | .error _ => .error .invalidJson
  | .ok text =>
    match Json.read? text with
    | none => .error .invalidJson
    | some document => entriesOf document

end Diglot.Snapshot
