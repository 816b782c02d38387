import Diglot.Proofs.FrameStack
import Diglot.Proofs.LexemeShapes

/-!
# Literals with interpolations

A grammar of plain literals as syntax trees: characters, escapes and interpolations between the
quotes, and in an interpolation words, literals and parentheses with single spaces between them.
Each tree has its text and, read off the tree alone, the lexemes it should be cut into.

The scanner has no trees, only a stack of depths. It finds the lexemes of every tree, in whatever
interpolations the tree stands and whatever text follows it (`resumed_items`, `lexemesFrom_atom`),
so a literal by itself is decomposed exactly (`scan_interpolated`).
-/

set_option autoImplicit false

namespace Diglot.Interpolated

open Text (isBlank isNewline)
open Cursor (fragmentLexemes)

/-! ## The grammar -/

/-- A character that stands for itself in a literal. -/
def isOrdinary (c : Char) : Bool :=
  c != '"' && c != '\\' && !isNewline c

mutual

/-- What stands in a literal behind its opening quote, up to the closing quote. -/
inductive Items
  | closed
  | plain (c : Char) (ordinary : isOrdinary c = true) (rest : Items)
  | escape (c : Char) (noOpener : c ≠ '(') (rest : Items)
  | interpolation (inside : Expression) (rest : Items)

/-- What stands in an interpolation or between parentheses. -/
inductive Expression
  | empty
  | atoms (first : Atom) (others : Others)

/-- Further atoms, each with a space before it. -/
inductive Others
  | none
  | spaced (atom : Atom) (others : Others)

inductive Atom
  | word (text : Text) (isWord : isWord text = true)
  | literal (items : Items)
  | parentheses (inside : Expression)

end

mutual

def Items.text : Items → Text
  | .closed => ['"']
  | .plain c _ rest => c :: rest.text
  | .escape c _ rest => '\\' :: c :: rest.text
  | .interpolation inside rest => '\\' :: '(' :: (inside.text ++ ')' :: rest.text)

def Expression.text : Expression → Text
  | .empty => []
  | .atoms first others => first.text ++ others.text

def Others.text : Others → Text
  | .none => []
  | .spaced atom others => ' ' :: (atom.text ++ others.text)

def Atom.text : Atom → Text
  | .word text _ => text
  | .literal items => '"' :: items.text
  | .parentheses inside => '(' :: (inside.text ++ [')'])

end

mutual

/-- The lexemes of items with `front` before them in their stretch. A stretch goes on through
characters and escapes, and ends with the closing quote or before an interpolation. -/
def Items.lexemes : Items → Text → List Lexeme
  | .closed, front => [⟨.stringLiteral, front ++ ['"']⟩]
  | .plain c _ rest, front => rest.lexemes (front ++ [c])
  | .escape c _ rest, front => rest.lexemes (front ++ ['\\', c])
  | .interpolation inside rest, front =>
    fragmentLexemes front ++ ⟨.delimiter, ['\\', '(']⟩ ::
      (inside.lexemes ++ ⟨.delimiter, [')']⟩ :: rest.lexemes [])

def Expression.lexemes : Expression → List Lexeme
  | .empty => []
  | .atoms first others => first.lexemes ++ others.lexemes

def Others.lexemes : Others → List Lexeme
  | .none => []
  | .spaced atom others => ⟨.whitespace, [' ']⟩ :: (atom.lexemes ++ others.lexemes)

def Atom.lexemes : Atom → List Lexeme
  | .word text _ => [⟨wordKind text, text⟩]
  | .literal items => items.lexemes ['"']
  | .parentheses inside => ⟨.punctuation, ['(']⟩ :: (inside.lexemes ++ [⟨.punctuation, [')']⟩])

end

/-! ## Inside a literal -/

variable {depths : List Nat}

/-- The lexemes from inside a literal on, where `front` has been read of a stretch. -/
def resumed (depths : List Nat) (front input : Text) : List Lexeme :=
  let fragment := Literal.fragment false input
  fragmentLexemes (front ++ fragment.cut.taken) ++
    lexemesFrom false (contextAfter fragment depths) fragment.cut.rest

theorem lexemesFrom_string (input : Text) :
    lexemesFrom false (.string depths) input = resumed depths [] input :=
  Cursor.lexemesFrom_fragment depths input

theorem resumed_quote (front after : Text) :
    resumed depths front ('"' :: after) =
      ⟨.stringLiteral, front ++ ['"']⟩ :: lexemesFrom false (.code depths) after := by
  simp [resumed, Literal.fragment_quote, fragmentLexemes, contextAfter]

/-- What a fragment takes joins the stretch. -/
theorem resumed_after {front taken input more : Text}
    (fragment : Literal.fragment false input = (Literal.fragment false more).after taken) :
    resumed depths front input = resumed depths (front ++ taken) more := by
  simp only [resumed, fragment, Literal.Fragment.after, Cut.after, contextAfter, List.append_assoc]

theorem resumed_plain {c : Char} (ordinary : isOrdinary c = true) (front input : Text) :
    resumed depths front (c :: input) = resumed depths (front ++ [c]) input := by
  obtain ⟨⟨quote, backslash⟩, inLine⟩ :
      (c ≠ '"' ∧ c ≠ '\\') ∧ isNewline c = false := by
    simpa [isOrdinary] using ordinary
  have noOpener : Literal.opensHere false (c :: input) = false := by
    rw [Bool.eq_false_iff]
    intro opens
    obtain ⟨slash | ⟨localized, -⟩, -⟩ := Literal.opener_eq opens
    · exact backslash slash
    · cases localized
  exact resumed_after (Literal.fragment_plain noOpener backslash quote inLine)

theorem resumed_escape {c : Char} (noOpener : c ≠ '(') (front input : Text) :
    resumed depths front ('\\' :: c :: input) = resumed depths (front ++ ['\\', c]) input :=
  resumed_after (Literal.fragment_escape noOpener input)

theorem resumed_opener (front input : Text) :
    resumed depths front ('\\' :: '(' :: input) =
      fragmentLexemes front ++ ⟨.delimiter, ['\\', '(']⟩ ::
        lexemesFrom false (.code (0 :: depths)) input := by
  have opens : Literal.opensHere false ('\\' :: '(' :: input) = true := rfl
  obtain ⟨-, -, scanned⟩ := Cursor.lexemesFrom_opener depths opens
  rw [resumed, Literal.fragment_opener opens]
  simp only [Cut.nothing, List.append_nil]
  exact congrArg (fragmentLexemes front ++ ·) scanned

/-! ## Inside an interpolation -/

theorem lexemesFrom_quote {input : Text} (single : ['"', '"'].isPrefixOf input = false) :
    lexemesFrom false (.code depths) ('"' :: input) = resumed depths ['"'] input := by
  rw [lexemesFrom_cons]
  simp only [step, codeStep, Form.ofStart_literal single]
  rfl

theorem lexemesFrom_space {rest : Text} (ends : ∀ c ∈ rest.head?, isBlank c = false) :
    lexemesFrom false (.code depths) (' ' :: rest) =
      ⟨.whitespace, [' ']⟩ :: lexemesFrom false (.code depths) rest := by
  have form : Form.ofStart ' ' rest = .blank := by
    simp [Form.ofStart, show isBlank ' ' = true by decide]
  have cut : Cut.span isBlank ([] ++ rest) = ⟨[], rest⟩ := Cut.span_eq_iff.2 ⟨by simp, ends⟩
  rw [List.nil_append] at cut
  rw [lexemesFrom_cons]
  simp only [step, codeStep, form, cut]
  rfl

theorem lexemesFrom_left (depth : Nat) (outer : List Nat) (rest : Text) :
    lexemesFrom false (.code (depth :: outer)) ('(' :: rest) =
      ⟨.punctuation, ['(']⟩ :: lexemesFrom false (.code ((depth + 1) :: outer)) rest :=
  lexemesFrom_mark (by decide) (by decide) rest

theorem lexemesFrom_right (depth : Nat) (outer : List Nat) (rest : Text) :
    lexemesFrom false (.code ((depth + 1) :: outer)) (')' :: rest) =
      ⟨.punctuation, [')']⟩ :: lexemesFrom false (.code (depth :: outer)) rest :=
  lexemesFrom_mark (by decide) (by decide) rest

/-- Where no parenthesis is open, one that closes leads back into the literal, and a new stretch
starts. -/
theorem lexemesFrom_closer (outer : List Nat) (rest : Text) :
    lexemesFrom false (.code (0 :: outer)) (')' :: rest) =
      ⟨.delimiter, [')']⟩ :: resumed outer [] rest := by
  rw [← lexemesFrom_string]
  exact lexemesFrom_mark (by decide) (by decide) rest

/-- What may stand behind an atom: a space or a closing parenthesis. -/
def EndsAtom (after : Text) : Prop :=
  ∃ tail, after = ' ' :: tail ∨ after = ')' :: tail

theorem EndsAtom.continuesWord {after : Text} (ends : EndsAtom after) :
    ∀ c ∈ after.head?, continuesWord c = false := by
  intro c first
  obtain ⟨tail, rfl | rfl⟩ := ends
  · obtain rfl : ' ' = c := by simpa using first
    decide
  · obtain rfl : ')' = c := by simpa using first
    decide

/-- No literal of the grammar opens with three quotes. -/
theorem isPrefixOf_items (items : Items) {after : Text} (ends : after.head? ≠ some '"') :
    ['"', '"'].isPrefixOf (items.text ++ after) = false := by
  cases items with
  | closed =>
    cases after with
    | nil => rfl
    | cons c cs =>
      have other : c ≠ '"' := by simpa using ends
      simp [Items.text, List.isPrefixOf, Ne.symm other]
  | plain c ordinary rest =>
    have other : c ≠ '"' := by
      rintro rfl
      simp [isOrdinary] at ordinary
    simp [Items.text, List.isPrefixOf, Ne.symm other]
  | escape c noOpener rest => simp [Items.text, List.isPrefixOf]
  | interpolation inside rest => simp [Items.text, List.isPrefixOf]

/-- An atom does not start with a blank. -/
theorem isBlank_atom (atom : Atom) (after : Text) :
    ∀ c ∈ (atom.text ++ after).head?, isBlank c = false := by
  intro c first
  cases atom with
  | word text word =>
    obtain ⟨d, ds, rfl⟩ := List.exists_cons_of_ne_nil (isWord_ne_nil word)
    obtain rfl : d = c := by simpa [Atom.text] using first
    exact isBlank_eq_false_of_startsWord (isWord_cons.1 word).1
  | literal items =>
    obtain rfl : '"' = c := by simpa [Atom.text] using first
    decide
  | parentheses inside =>
    obtain rfl : '(' = c := by simpa [Atom.text] using first
    decide

theorem endsAtom_others (others : Others) (after : Text) :
    EndsAtom (others.text ++ ')' :: after) := by
  cases others with
  | none => exact ⟨after, .inr rfl⟩
  | spaced atom others =>
    exact ⟨_, .inl (by rw [Others.text, List.cons_append])⟩

/-! ## The scan along a tree -/

mutual

/-- The induction is on the tree: the stretch so far, the interpolations around it and the text
behind it are arbitrary. -/
theorem resumed_items (items : Items) (depths : List Nat) (front after : Text) :
    resumed depths front (items.text ++ after) =
      items.lexemes front ++ lexemesFrom false (.code depths) after := by
  match items with
  | .closed =>
    rw [Items.text, Items.lexemes]
    exact resumed_quote front after
  | .plain c ordinary rest =>
    rw [Items.text, Items.lexemes, List.cons_append, resumed_plain ordinary]
    exact resumed_items rest depths (front ++ [c]) after
  | .escape c noOpener rest =>
    rw [Items.text, Items.lexemes, List.cons_append, List.cons_append, resumed_escape noOpener]
    exact resumed_items rest depths (front ++ ['\\', c]) after
  | .interpolation inside rest =>
    rw [Items.text, Items.lexemes, List.cons_append, List.cons_append, resumed_opener,
      List.append_assoc inside.text, List.cons_append,
      lexemesFrom_expression inside 0 depths (rest.text ++ after), lexemesFrom_closer,
      resumed_items rest depths [] after]
    simp only [List.append_assoc, List.cons_append]

theorem lexemesFrom_expression (inside : Expression) (depth : Nat) (outer : List Nat)
    (after : Text) :
    lexemesFrom false (.code (depth :: outer)) (inside.text ++ ')' :: after) =
      inside.lexemes ++ lexemesFrom false (.code (depth :: outer)) (')' :: after) := by
  match inside with
  | .empty => rfl
  | .atoms first others =>
    rw [Expression.text, Expression.lexemes, List.append_assoc,
      lexemesFrom_atom first depth outer _ (endsAtom_others others after),
      lexemesFrom_others others depth outer after, List.append_assoc]

theorem lexemesFrom_others (others : Others) (depth : Nat) (outer : List Nat) (after : Text) :
    lexemesFrom false (.code (depth :: outer)) (others.text ++ ')' :: after) =
      others.lexemes ++ lexemesFrom false (.code (depth :: outer)) (')' :: after) := by
  match others with
  | .none => rfl
  | .spaced atom others =>
    rw [Others.text, Others.lexemes, List.cons_append, List.append_assoc,
      lexemesFrom_space (isBlank_atom atom _),
      lexemesFrom_atom atom depth outer _ (endsAtom_others others after),
      lexemesFrom_others others depth outer after, List.cons_append, List.append_assoc]

theorem lexemesFrom_atom (atom : Atom) (depth : Nat) (outer : List Nat) (after : Text)
    (ends : EndsAtom after) :
    lexemesFrom false (.code (depth :: outer)) (atom.text ++ after) =
      atom.lexemes ++ lexemesFrom false (.code (depth :: outer)) after := by
  match atom with
  | .word text word =>
    rw [Atom.text, Atom.lexemes]
    exact lexemesFrom_word word ends.continuesWord
  | .literal items =>
    have noQuote : after.head? ≠ some '"' := by
      obtain ⟨tail, rfl | rfl⟩ := ends <;> simp
    rw [Atom.text, Atom.lexemes, List.cons_append,
      lexemesFrom_quote (isPrefixOf_items items noQuote)]
    exact resumed_items items (depth :: outer) ['"'] after
  | .parentheses inside =>
    rw [Atom.text, Atom.lexemes, List.cons_append, List.append_assoc, List.singleton_append,
      lexemesFrom_left, lexemesFrom_expression inside (depth + 1) outer after, lexemesFrom_right]
    simp only [List.append_assoc, List.cons_append, List.nil_append]

end

/-- A literal by itself has exactly the tokens of its tree, one after another. -/
theorem scan_interpolated (items : Items) :
    scan false (Atom.literal items).text = Token.place 0 (Atom.literal items).lexemes := by
  have alone := isPrefixOf_items items (by simp : ([] : Text).head? ≠ some '"')
  have resumes := resumed_items items [] ['"'] []
  rw [List.append_nil] at alone
  rw [lexemesFrom_nil, List.append_nil, List.append_nil] at resumes
  unfold scan lexemes Context.top
  rw [Atom.text, Atom.lexemes, lexemesFrom_quote alone, resumes]

/-- Interpolations side by side, and in one of them a parenthesis around another literal. -/
example :
    let inner := Atom.literal (.escape 'n' (by decide) (.interpolation .empty .closed))
    let inside := Expression.atoms (.word "if".toList (by decide))
      (.spaced (.parentheses (.atoms inner .none)) .none)
    let literal := Atom.literal
      (.plain 'a' (by decide) (.interpolation inside (.interpolation .empty .closed)))
    literal.text = "\"a\\(if (\"\\n\\()\"))\\()\"".toList ∧
      literal.lexemes =
        [⟨.stringLiteral, ['"', 'a']⟩, ⟨.delimiter, ['\\', '(']⟩, ⟨.keyword, ['i', 'f']⟩,
         ⟨.whitespace, [' ']⟩, ⟨.punctuation, ['(']⟩, ⟨.stringLiteral, ['"', '\\', 'n']⟩,
         ⟨.delimiter, ['\\', '(']⟩, ⟨.delimiter, [')']⟩, ⟨.stringLiteral, ['"']⟩,
         ⟨.punctuation, [')']⟩, ⟨.delimiter, [')']⟩, ⟨.delimiter, ['\\', '(']⟩,
         ⟨.delimiter, [')']⟩, ⟨.stringLiteral, ['"']⟩] := by
  decide

end Diglot.Interpolated
