import Diglot.Dictionary.Project
import Diglot.Mode
import Diglot.Path

/-!
# Events

What happens during a run is recorded as events. Each has a level and a wording.
-/

set_option autoImplicit false

namespace Diglot

inductive Level
  | debug
  | info
  | warning
  | error
  deriving DecidableEq, Repr

def Level.name : Level → String
  | .debug => "DEBUG"
  | .info => "INFO"
  | .warning => "WARNING"
  | .error => "ERROR"

inductive Event
  | tierUndeclared
  | otherTierDeclared (tier : Text)
  | projectAbsent (path : Path)
  | projectLoaded (size : Nat) (path : Path)
  | entryAdded (entry : Entry RawText) (path : Path)
  | entrySkipped (entry : Entry)
  | libraryAbsent (path : Path)
  | libraryDerived (size files : Nat) (path : Path)
  | snapshotWritten (size : Nat) (path : Path)
  | compilationLexicon (keywords library : Nat)
  | developerLexicon (keywords library project : Nat)
  | unreadable (path : Path) (reason : String)
  | converted (input : Path) (source : Mode) (output : Path) (target : Mode)
  | notVerifiedByDefault (path : Path) (suffix : Text)
  | sameModeTwice (path : Path) (mode : Mode)
  | roundTripOk (path : Path)
  | roundTripFailed (path : Path) (lines : Nat)
  | notFound (path : Path)
  deriving DecidableEq, Repr

namespace Event

def level : Event → Level
  | .projectLoaded .. | .entrySkipped .. | .libraryDerived .. | .compilationLexicon ..
  | .developerLexicon .. => .debug
  | .projectAbsent .. | .entryAdded .. | .libraryAbsent .. | .snapshotWritten .. | .converted ..
  | .roundTripOk .. | .roundTripFailed .. => .info
  | .tierUndeclared | .otherTierDeclared .. | .notVerifiedByDefault .. | .sameModeTwice ..
  | .notFound .. => .warning
  | .unreadable .. => .error

def message : Event → String
  | .tierUndeclared =>
    let project := Dictionary.projectTier.toStr
    s!"Project dictionary has no 'tier:' line; expected 'tier: {project}'"
  | .otherTierDeclared tier =>
    let project := Dictionary.projectTier.shown
    s!"Project dictionary declares tier {tier.shown}; expected {project}"
  | .projectAbsent path => s!"No project dictionary at {path.shown}; project tier is empty"
  | .projectLoaded size path => s!"Loaded {size} project identifiers from {path.shown}"
  | .entryAdded entry path =>
    s!"Added {entry.localized.toStr} -> {entry.primary.toStr} to {path.shown}"
  | .entrySkipped entry =>
    s!"Skipping duplicate library pair {entry.localized.toStr} -> {entry.primary.toStr}"
  | .libraryAbsent path => s!"No library symbols at {path.shown}; library tier is empty"
  | .libraryDerived size files path =>
    s!"Derived {size} library symbols from {files} files under {path.shown}"
  | .snapshotWritten size path => s!"Wrote {size} library symbols to {path.shown}"
  | .compilationLexicon keywords library =>
    s!"compilation lexicon: {keywords} keywords, {library} library symbols"
  | .developerLexicon keywords library project =>
    s!"developer lexicon: {keywords} keywords, {library} library symbols, " ++
      s!"{project} project identifiers"
  | .unreadable path reason => s!"Cannot read {path.shown}: {reason}"
  | .converted input source output target =>
    s!"{input.shown} ({source.name}) -> {output.shown} ({target.name})"
  | .notVerifiedByDefault path suffix =>
    s!"Skipping {path.shown}: only {suffix.toStr} files are verified by default"
  | .sameModeTwice path mode =>
    s!"Skipping {path.shown}: source and intermediate mode are both {mode.name}"
  | .roundTripOk path => s!"OK: {path.shown}"
  | .roundTripFailed path lines => s!"FAIL: {path.shown} ({lines} lines differ)"
  | .notFound path => s!"Not found: {path.shown}"

def logLine (event : Event) : String :=
  s!"[{event.level.name}] {event.message}\n"

end Event

end Diglot
