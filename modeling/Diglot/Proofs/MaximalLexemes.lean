import Diglot.Proofs.LexemeShapes
import Diglot.Token

/-!
# Lexemes are maximal

Every lexeme of a scan looks as its kind says and goes on as far as it can: what follows in the
source could not have been a part of it. `Lexeme.Whole` says this of a lexeme and the text behind
it. One step gives a whole lexeme (`step_whole`), and so every token of a scan is whole before the
source from its end on (`scan_maximal`).
-/

set_option autoImplicit false

namespace Diglot

open Text (isBlank isNewline)

/-! ## What a kind says -/

/-- All characters of a text are of a class, and none of that class follows. -/
def WholeRun (p : Char → Bool) (text rest : Text) : Prop :=
  (∀ c ∈ text, p c = true) ∧ ∀ c ∈ rest.head?, p c = false

def WholeWord (word rest : Text) : Prop :=
  isWord word = true ∧ ∀ c ∈ rest.head?, continuesWord c = false

/-- A backtick and a name in the same line. The next backtick ends the name; without one it ends
where the line does. -/
def WholeEscapedName (text rest : Text) : Prop :=
  ∃ name, (∀ c ∈ name, c ≠ backtick ∧ isNewline c = false) ∧
    (text = backtick :: name ++ [backtick] ∨
      text = backtick :: name ∧ ∀ c ∈ rest.head?, isNewline c = true)

/-- Operator characters among which no comment starts; one more follows only if a comment starts
with it. -/
structure WholeOperator (text rest : Text) : Prop where
  chars : ∀ c ∈ text, isOperatorChar c = true
  noComment : ∀ front back, text = front ++ '/' :: back →
    (back ++ rest).head? ≠ some '/' ∧ (back ++ rest).head? ≠ some '*'
  ends : ∀ c ∈ rest.head?, isOperatorChar c = true → Comment.startsHere rest = true

/-- A character with which no other lexeme begins. -/
def isStray (c : Char) : Bool :=
  !isBlank c && !isOperatorChar c && !isPunctuation c && !startsWord c && !Text.isDigit c &&
    c ∉ ['"', '\\', backtick]

/-- The lexeme before `rest` looks as its kind says, and does not go on. -/
def Lexeme.Whole (localized : Bool) (lexeme : Lexeme) (rest : Text) : Prop :=
  match lexeme.kind with
  | .keyword => WholeWord lexeme.text rest ∧ Keyword.isKeyword lexeme.text = true
  | .identifier =>
    WholeWord lexeme.text rest ∧ Keyword.isKeyword lexeme.text = false ∨
      WholeEscapedName lexeme.text rest
  | .whitespace => WholeRun isBlank lexeme.text rest
  | .operator => lexeme.text = ['\\'] ∨ WholeOperator lexeme.text rest
  | .punctuation => ∃ c, lexeme.text = [c] ∧ isPunctuation c = true
  | .comment =>
    ['/', '/'] <+: lexeme.text ∧ WholeRun (!isNewline ·) lexeme.text rest ∨
      ['/', '*'] <+: lexeme.text
  | .unknown => ∃ c, lexeme.text = [c] ∧ isStray c = true
  | .numberLiteral => ∃ c ∈ lexeme.text.head?, Text.isDigit c = true
  | .delimiter =>
    lexeme.text = ['\\', '('] ∨ localized = true ∧ lexeme.text = ['/', '('] ∨ lexeme.text = [')']
  | .stringLiteral => ∃ c ∈ lexeme.text.head?, isNewline c = false

/-! ## Runs of characters -/

theorem wholeRun_span (p : Char → Bool) (input : Text) :
    WholeRun p (Cut.span p input).taken (Cut.span p input).rest :=
  Cut.span_eq_iff.1 (Cut.eq_of_whole (Cut.whole_span p) input)

theorem WholeRun.cons {p : Char → Bool} {c : Char} {text rest : Text}
    (run : WholeRun p text rest) (first : p c = true) : WholeRun p (c :: text) rest :=
  ⟨List.forall_mem_cons.2 ⟨first, run.1⟩, run.2⟩

theorem wholeWord_wordCut {c : Char} (starts : startsWord c = true) (cs : Text) :
    WholeWord (wordCut c cs).taken (wordCut c cs).rest :=
  ⟨isWord_wordCut starts cs, (wholeRun_span continuesWord cs).2⟩

/-- An escaped name runs to the next backtick or to the end of the line. -/
theorem wholeEscapedName_tail (cs : Text) :
    WholeEscapedName (backtick :: (escapedNameTail cs).taken) (escapedNameTail cs).rest := by
  induction cs with
  | nil => exact ⟨[], by simp, .inr ⟨rfl, by simp [escapedNameTail, Cut.nothing]⟩⟩
  | cons c cs ih =>
    rw [escapedNameTail]
    split
    · next newline => exact ⟨[], by simp, .inr ⟨rfl, by simp [Cut.nothing, newline]⟩⟩
    · next inside =>
      split
      · next closes => exact ⟨[], by simp, .inl (by simp [closes])⟩
      · next opens =>
        obtain ⟨name, plain, ends⟩ := ih
        have inside : isNewline c = false := by simpa using inside
        refine ⟨c :: name, List.forall_mem_cons.2 ⟨⟨opens, inside⟩, plain⟩, ?_⟩
        simpa [Cut.after] using ends

/-! ## Operators -/

theorem WholeOperator.cons {c : Char} {text rest : Text} (operator : WholeOperator text rest)
    (first : isOperatorChar c = true)
    (noComment : Comment.startsHere (c :: (text ++ rest)) = false) :
    WholeOperator (c :: text) rest := by
  refine ⟨List.forall_mem_cons.2 ⟨first, operator.chars⟩, ?_, operator.ends⟩
  intro front back split
  cases front with
  | nil =>
    obtain ⟨rfl, rfl⟩ := List.cons.inj split
    rw [← Bool.not_eq_true, Comment.startsHere_iff] at noComment
    simpa using noComment
  | cons _ front => exact operator.noComment front back (List.cons.inj split).2

theorem wholeOperator_tail (cs : Text) :
    WholeOperator (operatorTail cs).taken (operatorTail cs).rest := by
  induction cs with
  | nil => exact ⟨by simp [operatorTail, Cut.nothing], by simp [operatorTail, Cut.nothing],
      by simp [operatorTail, Cut.nothing]⟩
  | cons c cs ih =>
    have whole : (operatorTail cs).taken ++ (operatorTail cs).rest = cs := whole_operatorTail cs
    rw [operatorTail]
    split
    · next goesOn =>
      obtain ⟨first, noComment⟩ := Bool.and_eq_true_iff.1 goesOn
      exact ih.cons first (by simpa [whole] using noComment)
    · next stops =>
      refine ⟨by simp [Cut.nothing], by simp [Cut.nothing], ?_⟩
      intro d next operator
      obtain rfl : c = d := by simpa [Cut.nothing] using next
      simpa [Cut.nothing, operator] using stops

/-- No comment starts with an operator. -/
theorem startsHere_of_operator {c : Char} {cs : Text} (form : Form.ofStart c cs = .operator) :
    Comment.startsHere (c :: cs) = false := by
  rw [← Bool.not_eq_true, Comment.startsHere_iff]
  rintro ⟨slash, next⟩
  obtain rfl : c = '/' := by simpa using slash
  rw [List.tail_cons] at next
  rcases next with next | next
  · rw [Form.ofStart_line next] at form
    cases form
  · rw [Form.ofStart_block next] at form
    cases form

/-! ## Steps -/

/-- A test before a stray character has failed. -/
theorem Form.of_ite_eq_stray {p : Prop} [Decidable p] {yes no : Form}
    (form : (if p then yes else no) = .stray) (other : yes ≠ .stray) : ¬p ∧ no = .stray := by
  split at form
  · exact absurd form other
  · next failed => exact ⟨failed, form⟩

theorem isStray_of_form {c : Char} {cs : Text} (form : Form.ofStart c cs = .stray) :
    isStray c = true := by
  rw [Form.ofStart] at form
  obtain ⟨quote, form⟩ := Form.of_ite_eq_stray form (by split <;> simp)
  obtain ⟨-, form⟩ := Form.of_ite_eq_stray form (by simp)
  obtain ⟨-, form⟩ := Form.of_ite_eq_stray form (by simp)
  obtain ⟨-, form⟩ := Form.of_ite_eq_stray form (by simp)
  obtain ⟨blank, form⟩ := Form.of_ite_eq_stray form (by simp)
  obtain ⟨digit, form⟩ := Form.of_ite_eq_stray form (by simp)
  obtain ⟨backslash, form⟩ := Form.of_ite_eq_stray form (by simp)
  obtain ⟨operator, form⟩ := Form.of_ite_eq_stray form (by simp)
  obtain ⟨mark, form⟩ := Form.of_ite_eq_stray form (by simp)
  obtain ⟨escape, form⟩ := Form.of_ite_eq_stray form (by simp)
  obtain ⟨word, -⟩ := Form.of_ite_eq_stray form (by simp)
  simp [isStray, quote, blank, digit, backslash, operator, mark, escape, word]

theorem Lexeme.Shaped.whole_of_literal {localized : Bool} {lexeme : Lexeme}
    (shaped : lexeme.Shaped localized) (kind : lexeme.kind = .stringLiteral) (rest : Text) :
    lexeme.Whole localized rest := by
  obtain ⟨c, cs, first⟩ := List.exists_cons_of_ne_nil shaped.nonempty
  have inLine := shaped.inLine (by simp [kind]) c (by simp [first])
  unfold Lexeme.Whole
  rw [kind]
  exact ⟨c, by simp [first], inLine⟩

theorem punctuationStep_whole (localized : Bool) {depths : List Nat} {c : Char} {cs : Text}
    (mark : isPunctuation c = true) :
    Lexeme.Whole localized ⟨(punctuationStep depths c cs).kind,
      (punctuationStep depths c cs).cut.taken⟩ (punctuationStep depths c cs).cut.rest := by
  rw [whole_punctuationStep]
  rcases punctuationStep_shaped depths c cs with kind | ⟨kind, rfl⟩
  · rw [kind]
    exact ⟨c, rfl, mark⟩
  · rw [kind]
    exact .inr (.inr rfl)

/-- A lexeme in code is whole: one case for each form. -/
theorem codeStep_whole (localized : Bool) (depths : List Nat) (c : Char) (cs : Text) :
    Lexeme.Whole localized
      ⟨(codeStep localized depths c cs).kind, (codeStep localized depths c cs).cut.taken⟩
      (codeStep localized depths c cs).cut.rest := by
  have begins := Form.begins c cs
  have shaped := codeStep_shaped localized depths c cs
  cases form : Form.ofStart c cs with
  | literal => exact shaped.whole_of_literal (by simp only [codeStep, form]) _
  | verbatim pounds => exact shaped.whole_of_literal (by simp only [codeStep, form]) _
  | lineComment =>
    rw [form] at begins
    obtain ⟨rfl, next⟩ := begins
    obtain ⟨tail, rfl⟩ := List.head?_eq_some_iff.1 next
    simp only [codeStep, form]
    refine .inl ⟨?_, (wholeRun_span _ _).cons (by decide)⟩
    simp [Comment.lineTail, Cut.span, Cut.after, show isNewline '/' = false by decide]
  | blockComment =>
    rw [form] at begins
    obtain ⟨rfl, next⟩ := begins
    obtain ⟨tail, rfl⟩ := List.head?_eq_some_iff.1 next
    simp only [codeStep, form]
    exact .inr ⟨_, rfl⟩
  | blank =>
    rw [form] at begins
    simp only [codeStep, form]
    exact (wholeRun_span isBlank cs).cons begins
  | number =>
    rw [form] at begins
    simp only [codeStep, form]
    exact ⟨c, rfl, begins⟩
  | backslash =>
    rw [form] at begins
    simp only [codeStep, form]
    exact .inl (congrArg (fun d => [d]) begins)
  | operator =>
    rw [form] at begins
    simp only [codeStep, form]
    have noComment := startsHere_of_operator form
    rw [← whole_operatorTail cs] at noComment
    exact .inr ((wholeOperator_tail cs).cons begins noComment)
  | punctuation =>
    rw [form] at begins
    simp only [codeStep, form]
    exact punctuationStep_whole localized begins
  | escapedName =>
    rw [form] at begins
    obtain rfl : c = backtick := begins
    simp only [codeStep, form]
    exact .inr (wholeEscapedName_tail cs)
  | word =>
    rw [form] at begins
    have whole := wholeWord_wordCut begins cs
    simp only [codeStep, form]
    rcases wordKind_cases (wordCut c cs).taken with ⟨kind, table⟩ | ⟨kind, table⟩
    · rw [kind]
      exact ⟨whole, table⟩
    · rw [kind]
      exact .inl ⟨whole, table⟩
  | stray =>
    simp only [codeStep, form]
    exact ⟨c, rfl, isStray_of_form form⟩

/-- A step gives a whole lexeme. -/
theorem step_whole (localized : Bool) (context : Context) (c : Char) (cs : Text) :
    Lexeme.Whole localized
      ⟨(step localized context c cs).kind, (step localized context c cs).cut.taken⟩
      (step localized context c cs).cut.rest := by
  cases context with
  | code depths => exact codeStep_whole localized depths c cs
  | string depths =>
    have shaped := step_shaped localized (.string depths) c cs
    by_cases newline : isNewline c = true
    · simp only [step, stringStep_newline newline]
      exact codeStep_whole localized depths c cs
    · by_cases opens : Literal.opensHere localized (c :: cs) = true
      · have stepped : step localized (.string depths) c cs =
            ⟨.delimiter, ⟨c :: cs.take 1, cs.drop 1⟩, .code (0 :: depths)⟩ := by
          simp only [step, stringStep, if_pos opens]
        rw [stepped] at shaped ⊢
        exact shaped.delimiter rfl
      · have kind : (step localized (.string depths) c cs).kind = .stringLiteral := by
          simp only [step, stringStep, if_neg opens, if_neg newline]
        exact shaped.whole_of_literal kind _

/-! ## A whole scan -/

/-- What every step gives, with the text that it leaves, holds of every token with the source from
its end on. -/
theorem Token.forall_mem_place {localized : Bool} {context : Context} {input source : Text}
    {offset : Nat} {P : Lexeme → Text → Prop}
    (steps : ∀ context c cs,
      P ⟨(step localized context c cs).kind, (step localized context c cs).cut.taken⟩
        (step localized context c cs).cut.rest)
    (here : source.drop offset = input) :
    ∀ token ∈ place offset (lexemesFrom localized context input),
      P token.lexeme (source.drop token.stop) := by
  fun_induction lexemesFrom localized context input generalizing offset with
  | case1 => simp [place]
  | @case2 context c cs next ih =>
    have whole : next.cut.taken ++ next.cut.rest = c :: cs := whole_step localized context c cs
    have ahead : source.drop (offset + next.cut.taken.length) = next.cut.rest := by
      rw [← List.drop_drop, here, ← whole, List.drop_left]
    rw [place, List.forall_mem_cons]
    refine ⟨?_, ih ahead⟩
    dsimp only
    rw [ahead]
    exact steps context c cs

/-- Every token of a scan is whole before the source from its end on. -/
theorem scan_maximal (localized : Bool) (source : Text) :
    ∀ token ∈ scan localized source, token.lexeme.text ≠ [] ∧
      token.lexeme.Whole localized (source.drop token.stop) := by
  apply Token.forall_mem_place
    (P := fun lexeme rest => lexeme.text ≠ [] ∧ lexeme.Whole localized rest) _ rfl
  intro context c cs
  exact ⟨step_taken_ne_nil localized context c cs, step_whole localized context c cs⟩

/-- An operator that has a slash in it and stands before a comment. -/
def slashedText : Text := "a /+//b".toList

theorem scan_maximal_slashed :
    ∃ token ∈ scan false slashedText, token.lexeme = ⟨.operator, ['/', '+']⟩ ∧
      WholeOperator ['/', '+'] ['/', '/', 'b'] := by
  have scanned : scan false slashedText = Token.place 0
      [⟨.identifier, ['a']⟩, ⟨.whitespace, [' ']⟩, ⟨.operator, ['/', '+']⟩,
       ⟨.comment, ['/', '/', 'b']⟩] := congrArg (Token.place 0) (by decide +kernel)
  have member : ⟨⟨.operator, ['/', '+']⟩, 2, 4, by decide⟩ ∈ scan false slashedText := by
    simp [scanned, Token.place]
  obtain ⟨-, whole⟩ := scan_maximal false slashedText _ member
  exact ⟨_, member, rfl, whole.resolve_left (by decide)⟩

end Diglot
