import Diglot.Decimal.Shortest
import Diglot.Table
import Diglot.Text.Quoted

/-!
# JSON values

The values of the snapshot format and of the reports. An object keeps its members in order, each
name once; entering a name again replaces its value where it stands.

`Json.shown` is the form in which a message quotes a value.
-/

set_option autoImplicit false

namespace Diglot

/-- A JSON value. Numbers are integers or doubles. -/
inductive Json
  | null
  | bool (value : Bool)
  | integer (value : Int)
  | real (value : Decimal.Double)
  | string (value : Text)
  | array (items : List Json)
  | object (members : List (Text × Json))

namespace Json

def nat (n : Nat) : Json :=
  .integer (Int.ofNat n)

def ofString (message : String) : Json :=
  .string message.toList

/-- An object from literal names. -/
def record (members : List (String × Json)) : Json :=
  .object (members.map fun (name, value) => (name.toList, value))

def member? (name : Text) : Json → Option Json
  | .object members => Table.value? members name
  | _ => none

/-- The members that were entered one after another. -/
def membersOf (entered : List (Text × Json)) : List (Text × Json) :=
  Table.overlay [] entered

mutual

/-- How deep values nest in a value: one for a value that holds no other. -/
def depth : Json → Nat
  | .array items => depthOfItems items + 1
  | .object members => depthOfMembers members + 1
  | .null | .bool _ | .integer _ | .real _ | .string _ => 1

def depthOfItems : List Json → Nat
  | [] => 0
  | item :: items => max (depth item) (depthOfItems items)

def depthOfMembers : List (Text × Json) → Nat
  | [] => 0
  | (_, value) :: members => max (depth value) (depthOfMembers members)

end

def integerText (n : Int) : Text :=
  if n < 0 then '-' :: Nat.toDigits 10 n.natAbs else Nat.toDigits 10 n.natAbs

mutual

/-- A value as a message quotes it. -/
def shownText : Json → Text
  | .null => "None".toList
  | .bool true => "True".toList
  | .bool false => "False".toList
  | .integer n => integerText n
  | .real x => x.text
  | .string text => text.quoted
  | .array items => '[' :: shownItems items ++ [']']
  | .object members => '\x7b' :: shownMembers members ++ ['\x7d']

def shownItems : List Json → Text
  | [] => []
  | [item] => shownText item
  | item :: items => shownText item ++ ", ".toList ++ shownItems items

def shownMembers : List (Text × Json) → Text
  | [] => []
  | [(name, value)] => name.quoted ++ ": ".toList ++ shownText value
  | (name, value) :: members =>
    name.quoted ++ ": ".toList ++ shownText value ++ ", ".toList ++ shownMembers members

end

def shown (value : Json) : String :=
  value.shownText.toStr

end Json

end Diglot
