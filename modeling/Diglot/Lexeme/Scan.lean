import Diglot.Lexeme.Literal
import Diglot.Lexeme.Number
import Diglot.Lexeme.Operator
import Diglot.Lexeme.Word
import Diglot.Text.Blank

/-!
# Scanning

Source text is cut into lexemes from left to right. One `step` takes one lexeme, which is never
empty; where it stands is a `Context`. Plain string literals are left and entered again around
interpolations, which nest to any depth: `"a \(b) c"` is the fragment `"a `, the opener, the word
`b`, the closing parenthesis and the fragment ` c"`.

Scanning is total and lossless: `concat_lexemes` says that the lexemes of a text make up the text.
-/

set_option autoImplicit false

namespace Diglot

/-- Where the scanner stands. Every interpolation around it is inside a plain literal, so the open
interpolations are given by their depths alone, the innermost first: the number of parentheses that
are open in each. -/
inductive Context
  | code (depths : List Nat)
  | string (depths : List Nat)
  deriving DecidableEq, Repr

/-- Outside every literal. -/
def Context.top : Context := .code []

/-- What a lexeme in code is, judged by its first characters. -/
inductive Form
  | literal
  | verbatim (pounds : Nat)
  | lineComment
  | blockComment
  | blank
  | number
  | backslash
  | operator
  | punctuation
  | escapedName
  | word
  | stray
  deriving DecidableEq, Repr

/-- The number of number signs before a quote, if a quote follows them. -/
def poundsBeforeQuote (input : Text) : Option Nat :=
  let cut := Cut.span (· == '#') input
  if cut.rest.head? = some '"' then some cut.taken.length else none

/-- The form of the lexeme that begins with `c` before `cs`. -/
def Form.ofStart (c : Char) (cs : Text) : Form :=
  if c = '"' then
    if ['"', '"'].isPrefixOf cs then .verbatim 0 else .literal
  else if c = '#' ∧ (poundsBeforeQuote cs).isSome then
    .verbatim ((poundsBeforeQuote cs).getD 0 + 1)
  else if c = '/' ∧ cs.head? = some '/' then .lineComment
  else if c = '/' ∧ cs.head? = some '*' then .blockComment
  else if Text.isBlank c then .blank
  else if Text.isDigit c then .number
  else if c = '\\' then .backslash
  else if isOperatorChar c then .operator
  else if isPunctuation c then .punctuation
  else if c = backtick then .escapedName
  else if startsWord c then .word
  else .stray

/-- One lexeme, the rest of the text, and where the scanner stands then. -/
structure Step where
  kind : Kind
  cut : Cut
  context : Context
  deriving DecidableEq, Repr

/-- A block comment that begins with a slash before `cs`. -/
def blockCommentCut (c : Char) : Text → Cut
  | star :: cs => (Comment.blockTail 1 cs).after [c, star]
  | [] => ⟨[c], []⟩

/-- A punctuation mark. Parentheses are counted inside an interpolation, and the one that closes it
leads back into the literal. -/
def punctuationStep (depths : List Nat) (c : Char) (cs : Text) : Step :=
  match depths with
  | [] => ⟨.punctuation, ⟨[c], cs⟩, .code []⟩
  | depth :: outer =>
    if c = '(' then ⟨.punctuation, ⟨[c], cs⟩, .code ((depth + 1) :: outer)⟩
    else if c = ')' then
      match depth with
      | 0 => ⟨.delimiter, ⟨[c], cs⟩, .string outer⟩
      | inner + 1 => ⟨.punctuation, ⟨[c], cs⟩, .code (inner :: outer)⟩
    else ⟨.punctuation, ⟨[c], cs⟩, .code (depth :: outer)⟩

def contextAfter (fragment : Literal.Fragment) (depths : List Nat) : Context :=
  if fragment.closed then .code depths else .string depths

def codeStep (localized : Bool) (depths : List Nat) (c : Char) (cs : Text) : Step :=
  match Form.ofStart c cs with
  | .literal =>
    let fragment := Literal.fragment localized cs
    ⟨.stringLiteral, fragment.cut.after [c], contextAfter fragment depths⟩
  | .verbatim pounds => ⟨.stringLiteral, Literal.verbatim pounds (c :: cs), .code depths⟩
  | .lineComment => ⟨.comment, (Comment.lineTail cs).after [c], .code depths⟩
  | .blockComment => ⟨.comment, blockCommentCut c cs, .code depths⟩
  | .blank => ⟨.whitespace, (Cut.span Text.isBlank cs).after [c], .code depths⟩
  | .number => ⟨.numberLiteral, (Number.tail c cs).after [c], .code depths⟩
  | .backslash => ⟨.operator, ⟨[c], cs⟩, .code depths⟩
  | .operator => ⟨.operator, (operatorTail cs).after [c], .code depths⟩
  | .punctuation => punctuationStep depths c cs
  | .escapedName => ⟨.identifier, (escapedNameTail cs).after [c], .code depths⟩
  | .word => ⟨wordKind (wordCut c cs).taken, wordCut c cs, .code depths⟩
  | .stray => ⟨.unknown, ⟨[c], cs⟩, .code depths⟩

/-- The next lexeme of a plain literal: an opener, a fragment, or, where the line ends and the
literal with it, the next lexeme of the code around. -/
def stringStep (localized : Bool) (depths : List Nat) (c : Char) (cs : Text) : Step :=
  if Literal.opensHere localized (c :: cs) then
    ⟨.delimiter, ⟨c :: cs.take 1, cs.drop 1⟩, .code (0 :: depths)⟩
  else if Text.isNewline c then codeStep localized depths c cs
  else
    let fragment := Literal.fragment localized (c :: cs)
    ⟨.stringLiteral, fragment.cut, contextAfter fragment depths⟩

def step (localized : Bool) : Context → Char → Text → Step
  | .code depths, c, cs => codeStep localized depths c cs
  | .string depths, c, cs => stringStep localized depths c cs

/-! ## Nothing is lost -/

@[simp] theorem whole_blockCommentCut (c : Char) (cs : Text) :
    (blockCommentCut c cs).whole = c :: cs := by
  cases cs <;> simp [blockCommentCut]

theorem whole_punctuationStep (depths : List Nat) (c : Char) (cs : Text) :
    (punctuationStep depths c cs).cut = ⟨[c], cs⟩ := by
  rw [punctuationStep.eq_def]
  split
  · rfl
  · split
    · rfl
    · split
      · split <;> rfl
      · rfl

theorem whole_codeStep (localized : Bool) (depths : List Nat) (c : Char) (cs : Text) :
    (codeStep localized depths c cs).cut.whole = c :: cs := by
  rw [codeStep]
  split <;> simp [whole_punctuationStep]

/-- A step keeps all of the text. -/
theorem whole_step (localized : Bool) (context : Context) (c : Char) (cs : Text) :
    (step localized context c cs).cut.whole = c :: cs := by
  cases context with
  | code depths => exact whole_codeStep localized depths c cs
  | string depths =>
    rw [step, stringStep]
    split
    · exact congrArg (c :: ·) (List.take_append_drop 1 cs)
    · split
      · exact whole_codeStep localized depths c cs
      · simp

theorem codeStep_taken_ne_nil (localized : Bool) (depths : List Nat) (c : Char) (cs : Text) :
    (codeStep localized depths c cs).cut.taken ≠ [] := by
  rw [codeStep]
  split
  case h_2 pounds _ => exact Literal.verbatim_taken_ne_nil pounds c cs
  case h_4 => cases cs <;> simp [blockCommentCut, Cut.after]
  all_goals simp [Cut.after, wordCut, whole_punctuationStep]

/-- A fragment is empty only before an opener or a line end. -/
theorem fragment_taken_ne_nil {localized : Bool} {c : Char} {cs : Text}
    (opener : Literal.opensHere localized (c :: cs) = false) (ends : Text.isNewline c = false) :
    (Literal.fragment localized (c :: cs)).cut.taken ≠ [] := by
  rw [Literal.fragment.eq_def]
  split
  · simp at *
  · next single =>
    obtain ⟨rfl, rfl⟩ : c = _ ∧ cs = [] := by simpa using single
    simp only [ends]
    split <;> simp
  · next pair =>
    obtain ⟨rfl, rfl⟩ : c = _ ∧ cs = _ := by simpa using pair
    simp only [opener, ends]
    split
    · simp at *
    · split
      · simp [Literal.Fragment.after, Cut.after]
      · split
        · simp
        · simp [Literal.Fragment.after, Cut.after]

/-- A step takes at least one character. -/
theorem step_taken_ne_nil (localized : Bool) (context : Context) (c : Char) (cs : Text) :
    (step localized context c cs).cut.taken ≠ [] := by
  cases context with
  | code depths => exact codeStep_taken_ne_nil localized depths c cs
  | string depths =>
    rw [step, stringStep]
    split
    · simp
    · next opener =>
      split
      · exact codeStep_taken_ne_nil localized depths c cs
      · next ends => exact fragment_taken_ne_nil (by simpa using opener) (by simpa using ends)

/-- A step leaves less text than it was given. -/
theorem step_rest_length_lt (localized : Bool) (context : Context) (c : Char) (cs : Text) :
    (step localized context c cs).cut.rest.length < (c :: cs).length := by
  have same := congrArg List.length (whole_step localized context c cs)
  have some_taken := List.length_pos_iff.2 (step_taken_ne_nil localized context c cs)
  rw [Cut.whole, List.length_append] at same
  omega

/-- The lexemes of a text that is scanned from a context on. -/
def lexemesFrom (localized : Bool) (context : Context) : Text → List Lexeme
  | [] => []
  | c :: cs =>
    let next := step localized context c cs
    ⟨next.kind, next.cut.taken⟩ :: lexemesFrom localized next.context next.cut.rest
termination_by input => input.length
decreasing_by exact step_rest_length_lt localized context c cs

/-- The lexemes of a source text. `localized` says that it is localized text, where an
interpolation may also open with a slash. -/
def lexemes (localized : Bool) (source : Text) : List Lexeme :=
  lexemesFrom localized .top source

@[simp] theorem lexemesFrom_nil (localized : Bool) (context : Context) :
    lexemesFrom localized context [] = [] := by
  rw [lexemesFrom]

theorem lexemesFrom_cons (localized : Bool) (context : Context) (c : Char) (cs : Text) :
    lexemesFrom localized context (c :: cs) =
      ⟨(step localized context c cs).kind, (step localized context c cs).cut.taken⟩ ::
        lexemesFrom localized (step localized context c cs).context
          (step localized context c cs).cut.rest := by
  rw [lexemesFrom]

/-- From every context on, the lexemes make up the text. -/
theorem concat_lexemesFrom (localized : Bool) (context : Context) (input : Text) :
    Lexeme.concat (lexemesFrom localized context input) = input := by
  fun_induction lexemesFrom localized context input with
  | case1 => rfl
  | case2 context c cs next ih =>
    rw [Lexeme.concat_cons, ih]
    exact whole_step localized context c cs

/-- The lexemes of a text make up the text. -/
theorem concat_lexemes (localized : Bool) (source : Text) :
    Lexeme.concat (lexemes localized source) = source :=
  concat_lexemesFrom localized .top source

end Diglot
