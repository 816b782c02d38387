import Diglot.Dictionary.Library
import Diglot.Setting
import Diglot.Workspace.Basic

/-!
# Dictionaries in a workspace

Loading the tiers of a lexicon from files, adding an identifier to a project dictionary, and saving
a library as a snapshot.
-/

set_option autoImplicit false

namespace Diglot.Session

/-- The glossary of the entries of a dictionary file. -/
def glossaryOf (path : Path) (entries : List Entry) : Session Glossary :=
  match Glossary.ofEntries entries with
  | .ok glossary => return glossary
  | .error conflict => throw (.dictionary path (.duplicate conflict))

/-- The glossary of entries that come from no file; a conflict shows the `raw` symbols. -/
def strictGlossary {σ : Type} [DecidableEq σ] (raw : σ → RawText) (entries : List (Entry σ)) :
    Session (Glossary σ) :=
  match Glossary.ofEntries entries with
  | .ok glossary => return glossary
  | .error conflict => throw (.conflict (conflict.map raw) .none)

/-! ## Project dictionaries -/

/-- The entries of a project dictionary, with a warning if it does not declare the project tier. -/
def parseProject (text : Text) : Session (List Entry) := do
  match Dictionary.declaredTier? text with
  | none => record .tierUndeclared
  | some tier => if tier ≠ Dictionary.projectTier then record (.otherTierDeclared tier)
  return Dictionary.entries text

/-- The project tier of a file. An absent file is an empty tier if it may be missing. -/
def loadProject (path : Path) (missingOk : Bool) : Session Glossary := do
  if (← nodeAt? path).isSome then
    let entries ← parseProject (← readText path)
    let glossary ← glossaryOf path entries
    record (.projectLoaded glossary.size path)
    return glossary
  else if missingOk then
    record (.projectAbsent path)
    return .empty
  else
    throw (.dictionary path .absent)

/-- Whether an entry may join the project tier of a lexicon. -/
def checkEntry (lexicon : Lexicon RawText) (incoming : Glossary RawText) : Session Unit :=
  match Lexicon.firstClash lexicon.keywords lexicon.library incoming with
  | some clash => throw (.clash clash)
  | none => return ()

/-- The name of an added entry in a conflict. -/
def newEntryLabel : Text :=
  ['n', 'e', 'w', ' ', 'e', 'n', 't', 'r', 'y']

/-- Adds an entry to a project dictionary. Nothing is written unless both symbols are new to the
dictionary and no symbol of the lexicon's higher tiers. -/
def addEntry (path : Path) (entry : Entry RawText) (lexicon : Option (Lexicon RawText)) :
    Session (Glossary RawText) := do
  let existing := (← loadProject path true).raw
  let incoming ← strictGlossary id [entry]
  match existing.merge incoming with
  | .error conflict => throw (.conflict conflict ⟨path.toText, newEntryLabel⟩)
  | .ok merged =>
    if let some lexicon := lexicon then
      checkEntry lexicon incoming
    writeText path (Dictionary.renderRaw merged.entries)
    record (.entryAdded entry path)
    return merged

/-! ## Libraries -/

def declarationEnding : Text :=
  ['.', 's', 'w', 'i', 'f', 't']

/-- Enters the declarations of a text into a glossary, with a note of each that is left out. -/
def gatherText (glossary : Glossary) (text : Text) : Session Glossary := do
  let gathered := Library.gather glossary (Library.declared text)
  gathered.skipped.forM fun entry => record (.entrySkipped entry)
  return gathered.glossary

/-- Enters the declarations of files into a glossary, one file after another. -/
def gatherFiles (glossary : Glossary) : List Path → Session Glossary
  | [] => return glossary
  | path :: paths => do
    let larger ← gatherText glossary (← readText path)
    gatherFiles larger paths

def loadLibraryDirectory (path : Path) : Session Glossary := do
  let files := ((← tree).below path).filter fun found =>
    declarationEnding.isSuffixOf found.name
  let glossary ← gatherFiles .empty files
  record (.libraryDerived glossary.size files.length path)
  return glossary

def snapshotSuffix : Text :=
  ['.', 'j', 's', 'o', 'n']

/-- The library of a snapshot. A problem that cannot be put into words is a fault of its own. -/
def loadSnapshot (path : Path) : Session Glossary := do
  match Snapshot.decode (← readBytes path) with
  | .error problem =>
    throw (if problem.isQuotable then .dictionary path (.snapshot problem) else .unquotable)
  | .ok entries => glossaryOf path entries

/-- The library tier of a directory of declarations, a snapshot or a single file of declarations. An
absent path is an empty tier. -/
def loadLibrary (path : Path) : Session Glossary := do
  match ← nodeAt? path with
  | none =>
    record (.libraryAbsent path)
    return .empty
  | some .directory => loadLibraryDirectory path
  | some (.file _) =>
    if path.suffix = snapshotSuffix then loadSnapshot path
    else gatherText .empty (← readText path)

def saveSnapshot (library : Glossary) (path : Path) : Session Unit := do
  writeBytes path (Snapshot.encode library.entries)
  record (.snapshotWritten library.size path)

/-! ## Lexicons -/

def compilationLexicon (library : Glossary) : Session Lexicon := do
  let lexicon := Lexicon.forCompilation library
  record (.compilationLexicon lexicon.keywords.size lexicon.library.size)
  return lexicon

def developerLexicon (library project : Glossary) : Session Lexicon := do
  match Lexicon.forDeveloper library project with
  | .error clash => throw (.clash clash.raw)
  | .ok lexicon =>
    record (.developerLexicon lexicon.keywords.size lexicon.library.size lexicon.project.size)
    return lexicon

/-- The library tier of a path, empty without a path. -/
def loadLibrarySetting : Setting Path → Session Glossary
  | .absent => return .empty
  | .void => throw (.void .path)
  | .value path => loadLibrary path

/-- The lexicon of a project dictionary and a library: with a dictionary the developer's, without
one the compiler's. -/
def loadLexicon (dictionary library : Setting Path) : Session Lexicon := do
  let symbols ← loadLibrarySetting library
  match dictionary with
  | .absent => compilationLexicon symbols
  | .void => throw (.void .path)
  | .value path => developerLexicon symbols (← loadProject path true)

end Diglot.Session
