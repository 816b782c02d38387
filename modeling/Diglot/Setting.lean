/-!
# Settings

A setting can be left out, or be given with a value. It can also be given with nothing in it, which
is neither: it counts as given, and fails where its value is needed.
-/

set_option autoImplicit false

namespace Diglot

/-- What is known of a setting. -/
inductive Setting (α : Type)
  | absent
  | void
  | value (given : α)
  deriving DecidableEq, Repr

namespace Setting

variable {α β : Type}

def ofOption : Option α → Setting α
  | none => .absent
  | some given => .value given

def toOption : Setting α → Option α
  | .value given => some given
  | .absent | .void => none

/-- Reads the value of a setting as something else; what cannot be read counts as left out. -/
def bind (setting : Setting α) (read : α → Option β) : Setting β :=
  match setting with
  | .absent => .absent
  | .void => .void
  | .value given => ofOption (read given)

def map (setting : Setting α) (change : α → β) : Setting β :=
  setting.bind fun given => some (change given)

/-- The setting with a value in case it is left out. -/
def orElse (setting : Setting α) (byDefault : α) : Setting α :=
  match setting with
  | .absent => .value byDefault
  | given => given

/-- An optional value is found again in its setting. -/
theorem toOption_ofOption (given : Option α) : (ofOption given).toOption = given := by
  cases given <;> rfl

end Setting

end Diglot
