import Diglot.Text.Quoted

/-!
# Invalid names and ranges

Values that come from outside by name or by number can be none of this library's. Each way to be
wrong is a constructor, and `Invalid.message` says it in words.
-/

set_option autoImplicit false

namespace Diglot

/-- A name or a range from outside that means nothing here. -/
inductive Invalid
  | kind (name : Text)
  | range (start stop : Int)
  | mode (name : Text)
  | direction (name : Text)
  | scope (name : Text)
  deriving DecidableEq, Repr

def Invalid.message : Invalid → String
  | .kind name => s!"unknown token kind: {name.shown}"
  | .range start stop => s!"invalid token range [{start}, {stop})"
  | .mode name => s!"{name.shown} is not a valid Mode"
  | .direction name => s!"{name.shown} is not a valid Direction"
  | .scope name => s!"{name.shown} is not a valid Scope"

end Diglot
