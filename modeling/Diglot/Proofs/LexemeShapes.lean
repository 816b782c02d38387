import Diglot.Proofs.SteadySteps
import Diglot.Rewording

/-!
# The shape of a lexeme

What every lexeme of a scan looks like, by its kind. One step gives a lexeme of its kind's shape
(`step_shaped`), and so does a whole scan (`shaped_of_mem`).
-/

set_option autoImplicit false

namespace Diglot

open Text (isBlank isNewline)

/-- A lexeme is not empty, starts a line only as whitespace, and looks as its kind says. -/
structure Lexeme.Shaped (localized : Bool) (lexeme : Lexeme) : Prop where
  nonempty : lexeme.text ≠ []
  inLine : lexeme.kind ≠ .whitespace → ∀ c ∈ lexeme.text.head?, isNewline c = false
  keyword : lexeme.kind = .keyword →
    isWord lexeme.text = true ∧ Keyword.isKeyword lexeme.text = true
  identifier : lexeme.kind = .identifier →
    isWord lexeme.text = true ∧ Keyword.isKeyword lexeme.text = false ∨
      lexeme.text.head? = some backtick
  operator : lexeme.kind = .operator →
    lexeme.text = ['\\'] ∨ ∀ c ∈ lexeme.text, isOperatorChar c = true
  delimiter : lexeme.kind = .delimiter →
    lexeme.text = ['\\', '('] ∨ localized = true ∧ lexeme.text = ['/', '('] ∨ lexeme.text = [')']

theorem Form.ofStart_newline {c : Char} (newline : isNewline c = true) (cs : Text) :
    Form.ofStart c cs = .blank := by
  rcases (by simpa [isNewline] using newline : c = '\n' ∨ c = '\r') with rfl | rfl
  · simp [Form.ofStart, show isBlank '\n' = true by decide]
  · simp [Form.ofStart, show isBlank '\r' = true by decide]

/-- Only whitespace starts with a line end. -/
theorem codeStep_kind_of_newline {localized : Bool} {depths : List Nat} {c : Char} {cs : Text}
    (newline : isNewline c = true) : (codeStep localized depths c cs).kind = .whitespace := by
  simp [codeStep, Form.ofStart_newline newline]

/-- What a step takes starts with the first character of the text. -/
theorem step_taken_eq (localized : Bool) (context : Context) (c : Char) (cs : Text) :
    ∃ taken, (step localized context c cs).cut.taken = c :: taken ∧
      cs = taken ++ (step localized context c cs).cut.rest := by
  have whole := whole_step localized context c cs
  rw [Cut.whole] at whole
  obtain ⟨d, taken, same⟩ := List.exists_cons_of_ne_nil (step_taken_ne_nil localized context c cs)
  rw [same] at whole
  obtain ⟨rfl, tail⟩ := List.cons.inj whole
  exact ⟨taken, same, tail.symm⟩

theorem wordKind_cases (word : Text) :
    wordKind word = .keyword ∧ Keyword.isKeyword word = true ∨
      wordKind word = .identifier ∧ Keyword.isKeyword word = false := by
  unfold wordKind
  cases h : Keyword.isKeyword word <;> simp

theorem operatorTail_taken (cs : Text) :
    ∀ c ∈ (operatorTail cs).taken, isOperatorChar c = true := by
  induction cs with
  | nil => simp [operatorTail, Cut.nothing]
  | cons c cs ih =>
    rw [operatorTail]
    split
    · next goesOn =>
      have operator := (Bool.and_eq_true_iff.1 goesOn).1
      intro d member
      rcases List.mem_cons.1 (by simpa [Cut.after] using member) with rfl | member
      · exact operator
      · exact ih d member
    · simp [Cut.nothing]

theorem isWord_wordCut {c : Char} (starts : startsWord c = true) (cs : Text) :
    isWord (wordCut c cs).taken = true := by
  have spanned := Cut.eq_of_whole (Cut.whole_span continuesWord) cs
  have goOn := (Cut.span_eq_iff.1 spanned).1
  exact isWord_cons.2 ⟨starts, goOn⟩

theorem punctuationStep_shaped (depths : List Nat) (c : Char) (cs : Text) :
    (punctuationStep depths c cs).kind = .punctuation ∨
      (punctuationStep depths c cs).kind = .delimiter ∧ c = ')' := by
  rw [punctuationStep.eq_def]
  split
  · exact .inl rfl
  · split
    · exact .inl rfl
    · split
      · next close =>
        split
        · exact .inr ⟨rfl, close⟩
        · exact .inl rfl
      · exact .inl rfl

/-- The kind of a lexeme in code and its form. -/
theorem codeStep_shaped (localized : Bool) (depths : List Nat) (c : Char) (cs : Text) :
    Lexeme.Shaped localized
      ⟨(codeStep localized depths c cs).kind, (codeStep localized depths c cs).cut.taken⟩ := by
  have begins := Form.begins c cs
  obtain ⟨taken, first, -⟩ := step_taken_eq localized (.code depths) c cs
  have first : (codeStep localized depths c cs).cut.taken = c :: taken := first
  have nonempty : (codeStep localized depths c cs).cut.taken ≠ [] := by simp [first]
  have inLine : (codeStep localized depths c cs).kind ≠ .whitespace →
      ∀ d ∈ (codeStep localized depths c cs).cut.taken.head?, isNewline d = false := by
    intro other d next
    obtain rfl : c = d := by simpa [first] using next
    rw [Bool.eq_false_iff]
    exact fun newline => other (codeStep_kind_of_newline newline)
  have plain (other : (codeStep localized depths c cs).kind ∉
      [Kind.keyword, .identifier, .operator, .delimiter]) :
      Lexeme.Shaped localized
        ⟨(codeStep localized depths c cs).kind, (codeStep localized depths c cs).cut.taken⟩ := by
    simp only [List.mem_cons, List.not_mem_nil, or_false, not_or] at other
    obtain ⟨keyword, identifier, operator, delimiter⟩ := other
    exact ⟨nonempty, inLine, fun h => absurd h keyword, fun h => absurd h identifier,
      fun h => absurd h operator, fun h => absurd h delimiter⟩
  cases form : Form.ofStart c cs with
  | literal | verbatim | lineComment | blockComment | blank | number | stray =>
    exact plain (by simp [codeStep, form])
  | backslash =>
    rw [form] at begins
    obtain rfl : c = '\\' := begins
    refine ⟨nonempty, inLine, ?_, ?_, ?_, ?_⟩ <;> simp [codeStep, form]
  | operator =>
    rw [form] at begins
    have begins : isOperatorChar c = true := begins
    refine ⟨nonempty, inLine, ?_, ?_, ?_, ?_⟩ <;> simp only [codeStep, form, reduceCtorEq]
    · simp
    · simp
    · refine fun _ => .inr ?_
      intro d member
      rcases List.mem_cons.1 (by simpa [Cut.after] using member) with rfl | member
      · exact begins
      · exact operatorTail_taken cs d member
    · simp
  | punctuation =>
    have cut := whole_punctuationStep depths c cs
    rcases punctuationStep_shaped depths c cs with mark | ⟨closes, rfl⟩
    · exact plain (by simp [codeStep, form, mark])
    · refine ⟨nonempty, inLine, ?_, ?_, ?_, ?_⟩ <;> simp [codeStep, form, closes, cut]
  | escapedName =>
    rw [form] at begins
    obtain rfl : c = backtick := begins
    refine ⟨nonempty, inLine, ?_, ?_, ?_, ?_⟩ <;> simp [codeStep, form, Cut.after]
  | word =>
    rw [form] at begins
    have word := isWord_wordCut begins cs
    refine ⟨nonempty, inLine, ?_, ?_, ?_, ?_⟩ <;> simp only [codeStep, form]
    all_goals
      intro kind
      rcases wordKind_cases (wordCut c cs).taken with ⟨same, table⟩ | ⟨same, table⟩
      all_goals simp_all

/-- An opener is a backslash, or in localized text a slash, and a parenthesis. -/
theorem Literal.opener_eq {localized : Bool} {c : Char} {cs : Text}
    (opens : opensHere localized (c :: cs) = true) :
    (c = '\\' ∨ localized = true ∧ c = '/') ∧ ∃ tail, cs = '(' :: tail := by
  obtain ⟨first, second⟩ := opensHere_iff.1 opens
  obtain ⟨tail, rfl⟩ := List.head?_eq_some_iff.1 second
  exact ⟨by simpa using first, tail, rfl⟩

/-- One step gives a lexeme of its kind's shape. -/
theorem step_shaped (localized : Bool) (context : Context) (c : Char) (cs : Text) :
    Lexeme.Shaped localized
      ⟨(step localized context c cs).kind, (step localized context c cs).cut.taken⟩ := by
  cases context with
  | code depths => exact codeStep_shaped localized depths c cs
  | string depths =>
    obtain ⟨taken, first, -⟩ := step_taken_eq localized (.string depths) c cs
    simp only [step, stringStep] at first ⊢
    split
    · next opens =>
      obtain ⟨slash, tail, rfl⟩ := Literal.opener_eq opens
      have notNewline : isNewline c = false := by
        rcases slash with rfl | ⟨-, rfl⟩ <;> decide
      refine ⟨by simp, ?_, by simp, by simp, by simp, ?_⟩
      · intro _ d next
        obtain rfl : c = d := by simpa using next
        exact notNewline
      · rcases slash with rfl | ⟨isLocalized, rfl⟩
        · exact fun _ => .inl rfl
        · exact fun _ => .inr (.inl ⟨isLocalized, rfl⟩)
    · next noOpener =>
      rw [if_neg noOpener] at first
      split
      · exact codeStep_shaped localized depths c cs
      · next inside =>
        rw [if_neg inside] at first
        have first : (Literal.fragment localized (c :: cs)).cut.taken = c :: taken := first
        refine ⟨by simp [first], ?_, by simp, by simp, by simp, by simp⟩
        intro _ d next
        obtain rfl : c = d := by simpa [first] using next
        simpa using inside

/-! ## Kinds by form -/

def Form.kinds : Form → List Kind
  | .literal | .verbatim _ => [.stringLiteral]
  | .lineComment | .blockComment => [.comment]
  | .blank => [.whitespace]
  | .number => [.numberLiteral]
  | .backslash | .operator => [.operator]
  | .punctuation => [.punctuation, .delimiter]
  | .escapedName => [.identifier]
  | .word => [.keyword, .identifier]
  | .stray => [.unknown]

theorem codeStep_kind_mem (localized : Bool) (depths : List Nat) (c : Char) (cs : Text) :
    (codeStep localized depths c cs).kind ∈ (Form.ofStart c cs).kinds := by
  cases form : Form.ofStart c cs with
  | punctuation =>
    simp only [codeStep, form]
    rcases punctuationStep_shaped depths c cs with kind | ⟨kind, -⟩ <;> simp [kind, Form.kinds]
  | word =>
    simp only [codeStep, form]
    rcases wordKind_cases (wordCut c cs).taken with ⟨kind, -⟩ | ⟨kind, -⟩ <;>
      simp [kind, Form.kinds]
  | literal | verbatim | lineComment | blockComment | blank | number | backslash | operator
  | escapedName | stray => simp [codeStep, form, Form.kinds]

theorem form_of_operator {localized : Bool} {depths : List Nat} {c : Char} {cs : Text}
    (operator : (codeStep localized depths c cs).kind = .operator) :
    Form.ofStart c cs = .operator ∨ Form.ofStart c cs = .backslash := by
  have kinds := codeStep_kind_mem localized depths c cs
  rw [operator] at kinds
  cases form : Form.ofStart c cs <;> simp [form, Form.kinds] at kinds ⊢

theorem form_of_number {localized : Bool} {depths : List Nat} {c : Char} {cs : Text}
    (number : (codeStep localized depths c cs).kind = .numberLiteral) :
    Form.ofStart c cs = .number := by
  have kinds := codeStep_kind_mem localized depths c cs
  rw [number] at kinds
  cases form : Form.ofStart c cs <;> simp [form, Form.kinds] at kinds ⊢

/-- In a plain literal the scanner finds openers, fragments and ends of lines. -/
theorem stringStep_kind (localized : Bool) (depths : List Nat) (c : Char) (cs : Text) :
    (stringStep localized depths c cs).kind ∈ [Kind.delimiter, .whitespace, .stringLiteral] := by
  rw [stringStep]
  split
  · simp
  · split
    · next newline => simp [codeStep_kind_of_newline newline]
    · simp

/-! ## Names -/

theorem affects_full_iff {kind : Kind} :
    Scope.full.affects kind = true ↔ kind = .keyword ∨ kind = .identifier := by
  cases kind <;> simp [Scope.affects]

theorem affects_full_wordKind (word : Text) : Scope.full.affects (wordKind word) = true := by
  rcases wordKind_cases word with ⟨kind, -⟩ | ⟨kind, -⟩ <;> simp [kind, Scope.affects]

/-- A name stands in code, and code goes on after it. -/
theorem step_of_name {localized : Bool} {context : Context} {c : Char} {cs : Text}
    (name : Scope.full.affects (step localized context c cs).kind = true) :
    ∃ depths, context = .code depths ∧ (step localized context c cs).context = .code depths ∧
      (Form.ofStart c cs = .word ∨ Form.ofStart c cs = .escapedName) := by
  have kind := affects_full_iff.1 name
  cases context with
  | code depths =>
    refine ⟨depths, rfl, ?_⟩
    have kinds := codeStep_kind_mem localized depths c cs
    simp only [step] at kind ⊢
    cases form : Form.ofStart c cs with
    | escapedName | word => simp [codeStep, form]
    | literal | verbatim | lineComment | blockComment | blank | number | backslash | operator
    | punctuation | stray => rcases kind with kind | kind <;> simp [form, kind, Form.kinds] at kinds
  | string depths =>
    have kinds := stringStep_kind localized depths c cs
    simp only [step] at kind
    rcases kind with kind | kind <;> simp [kind] at kinds

/-- A number literal stands in code, and code goes on after it. -/
theorem step_of_number {localized : Bool} {context : Context} {c : Char} {cs : Text}
    (number : (step localized context c cs).kind = .numberLiteral) :
    ∃ depths, context = .code depths ∧ (step localized context c cs).context = .code depths ∧
      Form.ofStart c cs = .number := by
  cases context with
  | code depths =>
    have form : Form.ofStart c cs = .number := form_of_number number
    exact ⟨depths, rfl, by simp only [step, codeStep, form], form⟩
  | string depths =>
    have kinds := stringStep_kind localized depths c cs
    simp [show (stringStep localized depths c cs).kind = .numberLiteral from number] at kinds

/-- A word before what does not continue it. -/
theorem step_word {localized : Bool} {depths : List Nat} {c : Char} {cs rest : Text}
    (word : isWord (c :: cs) = true) (ends : ∀ d ∈ rest.head?, continuesWord d = false) :
    step localized (.code depths) c (cs ++ rest) =
      ⟨wordKind (c :: cs), ⟨c :: cs, rest⟩, .code depths⟩ := by
  obtain ⟨starts, goOn⟩ := isWord_cons.1 word
  have cut : wordCut c (cs ++ rest) = ⟨c :: cs, rest⟩ := by
    rw [wordCut, Cut.after_cons_eq, Cut.span_eq_iff]
    exact ⟨goOn, ends⟩
  simp only [step, codeStep, Form.ofStart_of_startsWord starts, cut]

theorem lexemesFrom_word {localized : Bool} {depths : List Nat} {text rest : Text}
    (word : isWord text = true) (ends : ∀ c ∈ rest.head?, continuesWord c = false) :
    lexemesFrom localized (.code depths) (text ++ rest) =
      ⟨wordKind text, text⟩ :: lexemesFrom localized (.code depths) rest := by
  obtain ⟨c, cs, rfl⟩ := List.exists_cons_of_ne_nil (isWord_ne_nil word)
  rw [List.cons_append, lexemesFrom_cons, step_word word ends]

/-- A word by itself is one lexeme. -/
theorem lexemes_word {word : Text} (isWord : isWord word = true) (localized : Bool) :
    lexemes localized word = [⟨wordKind word, word⟩] := by
  have alone : lexemesFrom localized (.code []) (word ++ []) = _ :=
    lexemesFrom_word isWord (by simp)
  rw [List.append_nil, lexemesFrom_nil] at alone
  exact alone

/-- A punctuation mark, by what is counted around it. -/
theorem lexemesFrom_mark {localized : Bool} {depths : List Nat} {c : Char}
    (mark : isPunctuation c = true) (noPound : c ≠ '#') (rest : Text) :
    lexemesFrom localized (.code depths) (c :: rest) =
      ⟨(punctuationStep depths c rest).kind, [c]⟩ ::
        lexemesFrom localized (punctuationStep depths c rest).context rest := by
  rw [lexemesFrom_cons]
  simp only [step, codeStep, Form.ofStart_punctuation mark noPound, whole_punctuationStep]

/-- What a step takes, it takes before any text that parts from the rest only with words. -/
theorem step_steady_rest {parts : Text → Text → Prop} (words : WordParting parts)
    {localized : Bool} {context : Context} {c : Char} {cs other : Text}
    (number : (step localized context c cs).kind = .numberLiteral →
      Keeps (Number.tail c) (step localized context c cs).cut.rest other)
    (resumes : Resumes parts (step localized context c cs).cut.rest other) :
    ∃ taken, (step localized context c cs).cut.taken = c :: taken ∧
      step localized context c (taken ++ other) = (step localized context c cs).leaving other := by
  obtain ⟨taken, start, tail⟩ := step_taken_eq localized context c cs
  refine ⟨taken, start, ?_⟩
  generalize left : (step localized context c cs).cut.rest = rest at tail resumes number
  subst tail
  exact step_steady_of_words words number (congr (congrArg Cut.mk start) left) resumes

/-! ## A whole scan -/

/-- Every lexeme of a scan has its kind's shape. -/
theorem shaped_of_mem {localized : Bool} {context : Context} {input : Text} {lexeme : Lexeme}
    (member : lexeme ∈ lexemesFrom localized context input) : lexeme.Shaped localized := by
  fun_induction lexemesFrom localized context input with
  | case1 => simp at member
  | case2 context c cs next ih =>
    rcases List.mem_cons.1 member with rfl | member
    · exact step_shaped localized context c cs
    · exact ih member

/-- The opener with a slash is found in localized text alone. -/
theorem slash_not_mem (source : Text) :
    (⟨.delimiter, ['/', '(']⟩ : Lexeme) ∉ lexemes false source := by
  intro member
  have shaped : Lexeme.Shaped false ⟨.delimiter, ['/', '(']⟩ := shaped_of_mem member
  simpa using shaped.delimiter rfl

end Diglot
