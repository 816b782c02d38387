import Diglot.Invalid

/-!
# Modes, directions and scopes

The same program has three written forms. Going from one to another fixes the vocabulary to write
(`Direction`) and which words are affected (`Scope`).
-/

set_option autoImplicit false

namespace Diglot

/-- The three written forms: `primary` (A) has primary keywords and names, `localized` (B) has
localized ones and directional markup, and `hybrid` (C) has primary keywords and localized
names. -/
inductive Mode
  | primary
  | localized
  | hybrid
  deriving DecidableEq, Repr

/-- The vocabulary that words are put into. -/
inductive Direction
  | toPrimary
  | toLocalized
  deriving DecidableEq, Repr

/-- The words that are affected. -/
inductive Scope
  | keywordsOnly
  | full
  deriving DecidableEq, Repr

namespace Mode

/-- The letter of a mode. -/
def name : Mode → String
  | .primary => "A"
  | .localized => "B"
  | .hybrid => "C"

def all : List Mode := [.primary, .localized, .hybrid]

def ofName? (name : Text) : Option Mode :=
  all.find? (·.name.toList = name)

def ofName (name : Text) : Except Invalid Mode :=
  match ofName? name with
  | some mode => .ok mode
  | none => .error (.mode name)

def hasMarkup (mode : Mode) : Bool :=
  mode = .localized

end Mode

def Direction.name : Direction → String
  | .toPrimary => "to_primary"
  | .toLocalized => "to_localized"

def Direction.ofName (name : Text) : Except Invalid Direction :=
  match [Direction.toPrimary, .toLocalized].find? (·.name.toList = name) with
  | some direction => .ok direction
  | none => .error (.direction name)

def Direction.opposite : Direction → Direction
  | .toPrimary => .toLocalized
  | .toLocalized => .toPrimary

def Scope.name : Scope → String
  | .keywordsOnly => "keywords_only"
  | .full => "full"

def Scope.ofName (name : Text) : Except Invalid Scope :=
  match [Scope.keywordsOnly, .full].find? (·.name.toList = name) with
  | some scope => .ok scope
  | none => .error (.scope name)

end Diglot
