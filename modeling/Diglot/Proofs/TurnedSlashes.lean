import Diglot.Proofs.LocalizedTrip

/-!
# Text with its slashes turned round

Localized text turns the slashes of operators and openers round. Here that is done without setting
lexemes apart by controls. The scanner still finds the lexemes with the other slashes
(`lexemesFrom_turnedText`): no lexeme goes on with a backslash, a lone backslash in code ends an
operator, and an opener is one with either slash.

The induction follows the scan of the first text. What a step has to know of the text after it,
`TurnsTo`, holds of every text and its turned text.
-/

set_option autoImplicit false

namespace Diglot

open Text (isBlank isNewline)
open Markup (swapSlash swapSlashes)

variable {context : Context} {depths : List Nat} {c : Char} {cs input rest other : Text}

/-! ## The text -/

/-- A lexeme as localized text has it, without markup. -/
def Lexeme.spelling (lexeme : Lexeme) : Text :=
  Lexeme.concat lexeme.respelled

/-- A text with its slashes turned round as localized text has them. -/
def turnedText (context : Context) (input : Text) : Text :=
  (lexemesFrom true context input).flatMap Lexeme.spelling

/-- The text has no lone backslash in code, and no opener that is turned already. -/
structure Turnable (context : Context) (input : Text) : Prop where
  noBackslash : (⟨.operator, ['\\']⟩ : Lexeme) ∉ lexemesFrom true context input
  noSlash : (⟨.delimiter, ['/', '(']⟩ : Lexeme) ∉ lexemesFrom true context input

@[simp] theorem turnedText_nil (context : Context) : turnedText context [] = [] := by
  simp [turnedText]

theorem turnedText_cons (context : Context) (c : Char) (cs : Text) :
    turnedText context (c :: cs) =
      Lexeme.spelling ⟨(step true context c cs).kind, (step true context c cs).cut.taken⟩ ++
        turnedText (step true context c cs).context (step true context c cs).cut.rest := by
  rw [turnedText, lexemesFrom_cons, List.flatMap_cons]
  rfl

theorem concat_flatMap_respelled (lexemes : List Lexeme) :
    Lexeme.concat (lexemes.flatMap Lexeme.respelled) = lexemes.flatMap Lexeme.spelling :=
  List.flatMap_assoc

theorem Lexeme.spelling_operator (text : Text) :
    Lexeme.spelling ⟨.operator, text⟩ = swapSlashes text := by
  have spelled : Lexeme.respelled ⟨.operator, text⟩ =
      (slashPieces (swapSlashes text)).map (Lexeme.mk .operator) := rfl
  rw [spelling, spelled, Lexeme.concat, List.flatMap_map]
  change (slashPieces (swapSlashes text)).flatMap id = _
  rw [List.flatMap_id, flatten_slashPieces]

/-- Only operators and openers are spelled otherwise. -/
theorem Lexeme.spelling_eq (lexeme : Lexeme) :
    lexeme.spelling =
      match lexeme.kind with
      | .operator => swapSlashes lexeme.text
      | .delimiter => Markup.localizedDelimiter lexeme.text
      | .keyword | .identifier | .stringLiteral | .comment | .whitespace | .punctuation
      | .numberLiteral | .unknown => lexeme.text := by
  rcases lexeme with ⟨kind, text⟩
  cases kind with
  | operator => exact Lexeme.spelling_operator text
  | delimiter | keyword | identifier | stringLiteral | comment | whitespace | punctuation
  | numberLiteral | unknown => simp [Lexeme.spelling, Lexeme.respelled]

/-- A scanned lexeme that is no operator and no opener is spelled as it is. -/
theorem Lexeme.Shaped.respelled_eq {lexeme : Lexeme} (shaped : lexeme.Shaped true)
    (noOperator : lexeme.kind ≠ .operator) (noOpener : lexeme ≠ ⟨.delimiter, ['\\', '(']⟩) :
    lexeme.respelled = [lexeme] := by
  rcases lexeme with ⟨kind, text⟩
  cases kind with
  | operator => exact absurd rfl noOperator
  | delimiter =>
    have text_eq : text = ['\\', '('] ∨ text = ['/', '('] ∨ text = [')'] := by
      simpa using shaped.delimiter rfl
    rcases text_eq with rfl | rfl | rfl
    · exact absurd rfl noOpener
    · rfl
    · rfl
  | keyword | identifier => exact respelled_of_scanned shaped rfl
  | stringLiteral | comment | whitespace | punctuation | numberLiteral | unknown => rfl

theorem Lexeme.Shaped.spelling_eq {lexeme : Lexeme} (shaped : lexeme.Shaped true)
    (noOperator : lexeme.kind ≠ .operator) (noOpener : lexeme ≠ ⟨.delimiter, ['\\', '(']⟩) :
    lexeme.spelling = lexeme.text := by
  rw [spelling, shaped.respelled_eq noOperator noOpener]
  simp

theorem Turnable.tail (turnable : Turnable context (c :: cs)) :
    Turnable (step true context c cs).context (step true context c cs).cut.rest := by
  obtain ⟨noBackslash, noSlash⟩ := turnable
  rw [lexemesFrom_cons] at noBackslash noSlash
  exact ⟨List.not_mem_of_not_mem_cons noBackslash, List.not_mem_of_not_mem_cons noSlash⟩

/-- The first lexeme is no lone backslash. -/
theorem Turnable.ne_backslash (turnable : Turnable context (c :: cs)) :
    (⟨(step true context c cs).kind, (step true context c cs).cut.taken⟩ : Lexeme) ≠
      ⟨.operator, ['\\']⟩ := by
  have noBackslash := turnable.noBackslash
  rw [lexemesFrom_cons] at noBackslash
  exact (List.ne_of_not_mem_cons noBackslash).symm

theorem Turnable.ne_slash (turnable : Turnable context (c :: cs)) :
    (⟨(step true context c cs).kind, (step true context c cs).cut.taken⟩ : Lexeme) ≠
      ⟨.delimiter, ['/', '(']⟩ := by
  have noSlash := turnable.noSlash
  rw [lexemesFrom_cons] at noSlash
  exact (List.ne_of_not_mem_cons noSlash).symm

/-! ## Where an operator ends -/

theorem operatorTail_eq_nothing_iff :
    operatorTail input = Cut.nothing input ↔
      (∀ c ∈ input.head?, isOperatorChar c = false) ∨ Comment.startsHere input = true := by
  cases input with
  | nil => simp [operatorTail]
  | cons c cs =>
    rw [operatorTail]
    split
    · next goesOn =>
      simp only [Bool.and_eq_true, Bool.not_eq_true'] at goesOn
      simp [Cut.after, Cut.nothing, goesOn]
    · next stops =>
      simp only [Bool.and_eq_true, Bool.not_eq_true', not_and, Bool.not_eq_false] at stops
      cases operator : isOperatorChar c <;> simp_all

theorem operatorTail_rest (cs : Text) :
    operatorTail (operatorTail cs).rest = Cut.nothing (operatorTail cs).rest := by
  induction cs with
  | nil => rfl
  | cons c cs ih =>
    rw [operatorTail]
    split
    · exact ih
    · next stops => rw [Cut.nothing, operatorTail, if_neg stops]

/-! ## Where the texts part -/

/-- What the two texts go on with where they part: a slash that is turned round, or a quote or a
closing parenthesis, behind which openers may follow. -/
def turnPairs : List (Char × Char) :=
  [('/', '\\'), ('"', '"'), (')', ')')]

/-- The texts go on with a pair of characters that they part with. -/
def TurnParting (rest other : Text) : Prop :=
  ∃ pair ∈ turnPairs, rest.head? = some pair.1 ∧ other.head? = some pair.2

theorem innerParting_turn : InnerParting TurnParting := by
  rintro rest other ⟨pair, member, first, -⟩
  have inside : ∀ pair ∈ turnPairs, isNewline pair.1 = false := by decide
  obtain ⟨cs, rfl⟩ := List.head?_eq_some_iff.1 first
  exact ⟨pair.1, cs, rfl, inside pair member⟩

theorem formalParting_turn : FormalParting TurnParting := by
  rintro rest other ⟨pair, member, first, second⟩
  have untold : ∀ pair ∈ turnPairs, pair.2 ∉ ['#', '/', '*'] ∧ (pair.2 = '"' → pair.1 = '"') := by
    decide
  obtain ⟨cs, rfl⟩ := List.head?_eq_some_iff.1 second
  refine ⟨pair.2, cs, rfl, (untold pair member).1, fun quote => ?_⟩
  rw [first, (untold pair member).2 quote]

theorem turnParting_without {p : Char → Bool} (none : ∀ pair ∈ turnPairs, p pair.2 = false) :
    PartingWithout p TurnParting := by
  rintro rest other ⟨pair, member, -, second⟩ c next
  obtain rfl : pair.2 = c := Option.some.inj (second.symm.trans next)
  exact none pair member

/-- What a scanner that stands in a context can tell of a text and its turned text: they start
alike, a slash apart, and in code they go on alike up to a place where they part; comments and
openers start in both. -/
structure TurnsTo (context : Context) (rest other : Text) : Prop where
  head : other.head? = rest.head? ∨
    ∃ c ∈ ['/', '\\'], rest.head? = some c ∧ other.head? = some (swapSlash c)
  resumes : ∀ depths, context = .code depths → Resumes TurnParting rest other
  comment : ∀ depths, context = .code depths → Comment.startsHere rest = true →
    Comment.startsHere other = true
  opener : ∀ depths, context = .string depths → Literal.opensHere true rest = true →
    Literal.opensHere true other = true

namespace TurnsTo

/-- A character that is no slash comes next in the first text if it does in the second. -/
theorem head_eq (turns : TurnsTo context rest other) (noSlash : c ∉ ['/', '\\'])
    (next : other.head? = some c) : rest.head? = some c := by
  rcases turns.head with same | ⟨d, slash, -, second⟩
  · rw [← same, next]
  · have slashes : ∀ d ∈ ['/', '\\'], swapSlash d ∈ ['/', '\\'] :=
      forall_mem_of_all (by decide)
    obtain rfl : swapSlash d = c := Option.some.inj (second.symm.trans next)
    exact absurd (slashes d slash) noSlash

theorem ends (turns : TurnsTo context rest other) (ends : ∀ c ∈ rest.head?, isNewline c = true) :
    other.head? = rest.head? := by
  rcases turns.head with same | ⟨d, slash, first, -⟩
  · exact same
  · have inside : ∀ d ∈ ['/', '\\'], isNewline d = false := forall_mem_of_all (by decide)
    exact absurd (inside d slash) (by simp [ends d first])

/-- Where no operator goes on in the first text, none goes on in the second. -/
theorem operator_ends (turns : TurnsTo (.code depths) rest other)
    (stops : operatorTail rest = Cut.nothing rest) : operatorTail other = Cut.nothing other := by
  rw [operatorTail_eq_nothing_iff] at stops ⊢
  rcases stops with noOperator | comment
  · left
    intro d next
    cases turns.resumes depths rfl with
    | ended => simp at next
    | parted apart =>
      exact turnParting_without (by decide) apart d next
    | shared e _ => exact noOperator d next
  · exact .inr (turns.comment depths rfl comment)

end TurnsTo

/-! ## Every text turns -/

/-- Code goes on after a lexeme in code that begins with no quote and no closing parenthesis. -/
theorem codeStep_context (localized : Bool) (depths : List Nat) (noQuote : c ≠ '"')
    (noClose : c ≠ ')') (cs : Text) :
    (codeStep localized depths c cs).kind ≠ .delimiter ∧
      ∃ after, (codeStep localized depths c cs).context = .code after := by
  have begins := Form.begins c cs
  cases form : Form.ofStart c cs with
  | literal =>
    rw [form] at begins
    exact absurd begins.1 noQuote
  | punctuation =>
    simp only [codeStep, form]
    rw [punctuationStep.eq_def]
    split
    · exact ⟨by simp, _, rfl⟩
    · split
      · exact ⟨by simp, _, rfl⟩
      · exact ⟨by simp, _, rfl⟩
  | word =>
    simp only [codeStep, form]
    rcases wordKind_cases (wordCut c cs).taken with ⟨kind, -⟩ | ⟨kind, -⟩ <;> simp [kind]
  | verbatim | lineComment | blockComment | blank | number | backslash | operator | escapedName
  | stray => simp [codeStep, form]

theorem head?_spelling {lexeme : Lexeme} (shaped : lexeme.Shaped true) :
    lexeme.spelling.head? = lexeme.text.head? ∨
      ∃ c ∈ ['/', '\\'], lexeme.text.head? = some c ∧
        lexeme.spelling.head? = some (swapSlash c) := by
  by_cases opener : lexeme = ⟨.delimiter, ['\\', '(']⟩
  · subst opener
    exact .inr ⟨'\\', by simp, rfl, rfl⟩
  by_cases operator : lexeme.kind = .operator
  · rcases lexeme with ⟨kind, text⟩
    obtain rfl : kind = .operator := operator
    rw [Lexeme.spelling_operator]
    cases text with
    | nil => exact .inl rfl
    | cons c cs =>
      by_cases slash : c ∈ ['/', '\\']
      · exact .inr ⟨c, slash, rfl, rfl⟩
      · have same : swapSlash c = c := by
          simp only [List.mem_cons, List.not_mem_nil, or_false, not_or] at slash
          simp [swapSlash, slash]
        exact .inl (congrArg some same)
  · exact .inl (congrArg List.head? (shaped.spelling_eq operator opener))

theorem head?_turnedText (context : Context) (input : Text) :
    (turnedText context input).head? = input.head? ∨
      ∃ c ∈ ['/', '\\'], input.head? = some c ∧
        (turnedText context input).head? = some (swapSlash c) := by
  cases input with
  | nil => exact .inl (by simp)
  | cons c cs =>
    obtain ⟨taken, first, -⟩ := step_taken_eq true context c cs
    have shaped := step_shaped true context c cs
    have starts := head?_spelling shaped
    rw [turnedText_cons]
    rw [first] at starts ⊢
    rcases starts with same | ⟨d, slash, firstHead, turned⟩
    · obtain ⟨more, same⟩ := List.head?_eq_some_iff.1 (same : _ = some c)
      exact .inl (by simp [same])
    · obtain ⟨more, same⟩ := List.head?_eq_some_iff.1 turned
      exact .inr ⟨d, slash, firstHead, by simp [same]⟩

/-- An operator and its turned text go on alike up to the first slash. -/
theorem resumes_swapSlashes {text : Text} (operators : ∀ c ∈ text, isOperatorChar c = true)
    (resumes : Resumes TurnParting rest other) :
    Resumes TurnParting (text ++ rest) (swapSlashes text ++ other) := by
  induction text with
  | nil => exact resumes
  | cons c cs ih =>
    by_cases slash : c = '/'
    · subst slash
      exact .parted ⟨('/', '\\'), by decide, rfl, rfl⟩
    · have same : swapSlash c = c := by
        simp [swapSlash, slash, ne_backslash_of_operator (operators c (by simp))]
      have more := ih fun d member => operators d (List.mem_cons_of_mem c member)
      have turned : swapSlashes (c :: cs) = c :: swapSlashes cs := congrArg (· :: _) same
      rw [turned]
      exact .shared c more

theorem resumes_turnedText (turnable : Turnable context input)
    (code : ∃ depths, context = .code depths) :
    Resumes TurnParting input (turnedText context input) := by
  fun_induction lexemesFrom true context input with
  | case1 => rw [turnedText_nil]; exact .ended
  | @case2 context c cs next ih =>
    obtain ⟨depths, rfl⟩ := code
    by_cases behind : c = '"' ∨ c = ')'
    · -- openers may follow, and the texts are only known to start alike
      refine .parted ⟨(c, c), ?_, rfl, ?_⟩
      · rcases behind with rfl | rfl <;> decide
      · rcases head?_turnedText (.code depths) (c :: cs) with same | ⟨d, slash, first, -⟩
        · exact same
        · obtain rfl : c = d := Option.some.inj first
          rcases behind with rfl | rfl <;> simp at slash
    · obtain ⟨noQuote, noClose⟩ := not_or.1 behind
      obtain ⟨noDelimiter, after⟩ := codeStep_context true depths noQuote noClose cs
      have tail := ih turnable.tail after
      have shaped : Lexeme.Shaped true ⟨next.kind, next.cut.taken⟩ :=
        step_shaped true (.code depths) c cs
      have whole : next.cut.taken ++ next.cut.rest = c :: cs := whole_step true (.code depths) c cs
      rw [turnedText_cons, ← whole]
      by_cases operator : next.kind = .operator
      · have operators := (shaped.operator operator).resolve_left fun alone =>
          turnable.ne_backslash (by rw [← operator, ← alone])
        have spelled : Lexeme.spelling ⟨next.kind, next.cut.taken⟩ =
            swapSlashes next.cut.taken := by rw [operator, Lexeme.spelling_operator]
        rw [spelled]
        exact resumes_swapSlashes operators tail
      · rw [shaped.spelling_eq operator fun opener => noDelimiter (congrArg Lexeme.kind opener)]
        exact tail.append next.cut.taken

/-- A comment is spelled as it is. -/
theorem startsHere_turnedText (starts : Comment.startsHere input = true) :
    Comment.startsHere (turnedText (.code depths) input) = true := by
  rw [Comment.startsHere_iff] at starts
  obtain ⟨slash, next⟩ := starts
  obtain ⟨cs, rfl⟩ := List.head?_eq_some_iff.1 slash
  have next : cs.head? = some '/' ∨ cs.head? = some '*' := next
  have taken : ∃ d ds, (d = '/' ∨ d = '*') ∧
      (codeStep true depths '/' cs).kind = .comment ∧
      (codeStep true depths '/' cs).cut.taken = '/' :: d :: ds := by
    rcases next with line | block
    · obtain ⟨ds, rfl⟩ := List.head?_eq_some_iff.1 line
      refine ⟨'/', (Comment.lineTail ds).taken, .inl rfl, ?_⟩
      rw [codeStep, Form.ofStart_line rfl]
      simp [Comment.lineTail, Cut.span, Cut.after, isNewline]
    · obtain ⟨ds, rfl⟩ := List.head?_eq_some_iff.1 block
      refine ⟨'*', (Comment.blockTail 1 ds).taken, .inr rfl, ?_⟩
      rw [codeStep, Form.ofStart_block rfl]
      simp [blockCommentCut, Cut.after]
  obtain ⟨d, ds, starOrSlash, kind, text⟩ := taken
  have spelled : Lexeme.spelling ⟨(codeStep true depths '/' cs).kind,
      (codeStep true depths '/' cs).cut.taken⟩ = '/' :: d :: ds := by
    rw [kind, text]
    simp [Lexeme.spelling, Lexeme.respelled]
  rw [turnedText_cons, step, spelled, Comment.startsHere_iff]
  rcases starOrSlash with rfl | rfl
  · exact ⟨rfl, .inl rfl⟩
  · exact ⟨rfl, .inr rfl⟩

theorem opensHere_turnedText (opens : Literal.opensHere true input = true) :
    Literal.opensHere true (turnedText (.string depths) input) = true := by
  cases input with
  | nil => simp [Literal.opensHere] at opens
  | cons c cs =>
    obtain ⟨slash, tail, rfl⟩ := Literal.opener_eq opens
    have spelled : Lexeme.spelling ⟨.delimiter, [c, '(']⟩ = ['/', '('] := by
      rcases slash with rfl | ⟨-, rfl⟩ <;> rfl
    rw [turnedText_cons]
    simp only [step, stringStep, opens, if_true, List.take_succ_cons, List.take_zero]
    rw [spelled]
    rfl

theorem turnsTo_turnedText (turnable : Turnable context input) :
    TurnsTo context input (turnedText context input) where
  head := head?_turnedText context input
  resumes depths code := resumes_turnedText turnable ⟨depths, code⟩
  comment _ code starts := code ▸ startsHere_turnedText starts
  opener _ string opens := string ▸ opensHere_turnedText opens

/-! ## One lexeme -/

/-- The lexeme of a step is found, with the other slashes, before `other`. -/
def Step.Respells (next : Step) (context : Context) (other : Text) : Prop :=
  lexemesFrom true context (Lexeme.spelling ⟨next.kind, next.cut.taken⟩ ++ other) =
    Lexeme.respelled ⟨next.kind, next.cut.taken⟩ ++ lexemesFrom true next.context other

/-- A lexeme that stands as it is, and is taken before `other` as before. -/
theorem Step.respells_of_steady {next : Step} {taken : Text}
    (shaped : Lexeme.Shaped true ⟨next.kind, next.cut.taken⟩) (noOperator : next.kind ≠ .operator)
    (noOpener : (⟨next.kind, next.cut.taken⟩ : Lexeme) ≠ ⟨.delimiter, ['\\', '(']⟩)
    (cut : next.cut = ⟨c :: taken, rest⟩)
    (steady : step true context c (taken ++ other) = next.leaving other) :
    next.Respells context other := by
  rw [Respells, shaped.spelling_eq noOperator noOpener, shaped.respelled_eq noOperator noOpener]
  rw [cut, List.cons_append, lexemesFrom_cons, steady, Step.leaving, cut]
  rfl

theorem respells_operator {cut : Cut} (operators : ∀ c ∈ cut.taken, isOperatorChar c = true)
    (stops : operatorTail other = Cut.nothing other) :
    Step.Respells ⟨.operator, cut, .code depths⟩ (.code depths) other := by
  rw [Step.Respells, Lexeme.spelling_operator]
  apply lexemesFrom_operators _ stops
  intro c member
  obtain ⟨d, inText, rfl⟩ := List.mem_map.1 member
  exact swapSlash_operator (operators d inText)

/-- A lexeme in code that is no operator is taken before the turned text as before the text. -/
theorem codeStep_steady_of_turns {taken : Text}
    (noOperator : (codeStep true depths c (taken ++ rest)).kind ≠ .operator)
    (cut : (codeStep true depths c (taken ++ rest)).cut = ⟨c :: taken, rest⟩)
    (turns : TurnsTo (codeStep true depths c (taken ++ rest)).context rest other) :
    codeStep true depths c (taken ++ other) =
      (codeStep true depths c (taken ++ rest)).leaving other := by
  have inner := innerParting_turn
  have formal := formalParting_turn
  cases form : Form.ofStart c (taken ++ rest) with
  | backslash | operator => simp [codeStep, form] at noOperator
  | literal =>
    exact codeStep_steady_literal form cut (turns.head_eq (by decide)) turns.ends
      (turns.opener depths)
  | punctuation =>
    have mark : isPunctuation c = true := by
      have begins := Form.begins c (taken ++ rest)
      rwa [form] at begins
    by_cases close : c = ')'
    · -- a literal goes on behind it, but it ends with itself
      subst close
      have one : codeStep true depths ')' (taken ++ rest) =
          punctuationStep depths ')' (taken ++ rest) := by rw [codeStep, form]
      rw [one, whole_punctuationStep] at cut
      obtain ⟨rfl, -⟩ : [] = taken ∧ taken ++ rest = rest := by simpa using cut
      rw [one]
      exact step_punctuation mark (by decide) rest other
    · have noQuote : c ≠ '"' := by
        rintro rfl
        exact absurd mark (by decide)
      obtain ⟨-, after, code⟩ := codeStep_context true depths noQuote close (taken ++ rest)
      exact codeStep_steady_punctuation formal form cut (turns.resumes after code)
  | verbatim pounds =>
    exact codeStep_steady_verbatim inner form cut (turns.resumes depths (by simp [codeStep, form]))
  | lineComment =>
    exact codeStep_steady_lineComment inner form cut
      (turns.resumes depths (by simp [codeStep, form]))
  | blockComment =>
    exact codeStep_steady_blockComment inner form cut
      (turns.resumes depths (by simp [codeStep, form]))
  | blank =>
    exact codeStep_steady_blank formal (turnParting_without (by decide)) form cut
      (turns.resumes depths (by simp [codeStep, form]))
  | number =>
    have resumes := turns.resumes depths (by simp [codeStep, form])
    have keeps := (Number.steady_tail (turnParting_without (by decide)) c).keeps resumes
    exact codeStep_steady_number formal keeps form cut resumes
  | escapedName =>
    exact codeStep_steady_escapedName inner form cut
      (turns.resumes depths (by simp [codeStep, form]))
  | word =>
    exact codeStep_steady_word (.span_of_without (turnParting_without (by decide +kernel))) form cut
      (turns.resumes depths (by simp [codeStep, form]))
  | stray =>
    exact codeStep_steady_stray formal form cut (turns.resumes depths (by simp [codeStep, form]))

theorem respells_codeStep
    (noBackslash : (⟨(codeStep true depths c cs).kind, (codeStep true depths c cs).cut.taken⟩ :
      Lexeme) ≠ ⟨.operator, ['\\']⟩)
    (turns : TurnsTo (codeStep true depths c cs).context (codeStep true depths c cs).cut.rest
      other) :
    (codeStep true depths c cs).Respells (.code depths) other := by
  have shaped := codeStep_shaped true depths c cs
  by_cases operator : (codeStep true depths c cs).kind = .operator
  · have operators := (shaped.operator operator).resolve_left fun alone =>
      noBackslash (by rw [← operator, ← alone])
    rcases form_of_operator operator with form | form
    · simp only [codeStep, form] at operators turns ⊢
      exact respells_operator operators (turns.operator_ends (operatorTail_rest cs))
    · have begins := Form.begins c cs
      rw [form] at begins
      obtain rfl : c = '\\' := begins
      simp [codeStep, form] at noBackslash
  · have noOpener : (⟨(codeStep true depths c cs).kind, (codeStep true depths c cs).cut.taken⟩ :
        Lexeme) ≠ ⟨.delimiter, ['\\', '(']⟩ := by
      intro opener
      obtain ⟨taken, first, -⟩ := step_taken_eq true (.code depths) c cs
      have starts : c :: taken = ['\\', '('] := first.symm.trans (congrArg Lexeme.text opener)
      obtain rfl : c = '\\' := (List.cons.inj starts).1
      exact operator (by simp [codeStep, Form.ofStart_backslash])
    obtain ⟨taken, rest, rfl, cut⟩ := codeStep_cut_eq true depths c cs
    rw [cut] at turns
    exact Step.respells_of_steady shaped operator noOpener cut
      (codeStep_steady_of_turns operator cut turns)

theorem respells_stringStep
    (noSlash : (⟨(stringStep true depths c cs).kind, (stringStep true depths c cs).cut.taken⟩ :
      Lexeme) ≠ ⟨.delimiter, ['/', '(']⟩)
    (turns : TurnsTo (stringStep true depths c cs).context (stringStep true depths c cs).cut.rest
      other) :
    (stringStep true depths c cs).Respells (.string depths) other := by
  have shaped : Lexeme.Shaped true ⟨(stringStep true depths c cs).kind,
      (stringStep true depths c cs).cut.taken⟩ := step_shaped true (.string depths) c cs
  by_cases opens : Literal.opensHere true (c :: cs) = true
  · obtain ⟨slash, tail, rfl⟩ := Literal.opener_eq opens
    simp only [stringStep, opens, if_true] at noSlash ⊢
    obtain rfl : c = '\\' := by
      refine slash.resolve_right ?_
      rintro ⟨-, rfl⟩
      exact noSlash rfl
    have stepped : step true (.string depths) '/' ('(' :: other) =
        ⟨.delimiter, ⟨['/', '('], other⟩, .code (0 :: depths)⟩ := rfl
    change lexemesFrom true (.string depths) ('/' :: '(' :: other) = _
    rw [lexemesFrom_cons, stepped]
    rfl
  obtain ⟨taken, first, tail⟩ := step_taken_eq true (.string depths) c cs
  have cut : (stringStep true depths c cs).cut =
      ⟨c :: taken, (stringStep true depths c cs).cut.rest⟩ := congrArg (Cut.mk · _) first
  have tail : cs = taken ++ (stringStep true depths c cs).cut.rest := tail
  generalize (stringStep true depths c cs).cut.rest = rest at cut tail turns
  subst tail
  by_cases newline : isNewline c = true
  · rw [stringStep_newline newline] at cut turns shaped ⊢
    have kind : (codeStep true depths c (taken ++ rest)).kind = .whitespace :=
      codeStep_kind_of_newline newline
    refine Step.respells_of_steady shaped (by simp [kind]) (by simp [kind]) cut ?_
    rw [step, stringStep_newline newline]
    exact codeStep_steady_of_turns (by simp [kind]) cut turns
  · have kind : (stringStep true depths c (taken ++ rest)).kind = .stringLiteral := by
      simp only [stringStep, opens, newline, if_false, Bool.false_eq_true]
    refine Step.respells_of_steady shaped (by simp [kind]) (by simp [kind]) cut ?_
    exact stringStep_steady_fragment (by simpa using opens) (by simpa using newline) cut
      (turns.head_eq (by decide)) turns.ends (turns.opener depths)

/-! ## A whole text -/

/-- The scanner finds the lexemes with the other slashes in the turned text. -/
theorem lexemesFrom_turnedText (turnable : Turnable context input) :
    lexemesFrom true context (turnedText context input) =
      (lexemesFrom true context input).flatMap Lexeme.respelled := by
  fun_induction lexemesFrom true context input with
  | case1 => simp
  | @case2 context c cs next ih =>
    rw [turnedText_cons, List.flatMap_cons, ← ih turnable.tail]
    have turns : TurnsTo next.context next.cut.rest (turnedText next.context next.cut.rest) :=
      turnsTo_turnedText turnable.tail
    cases context with
    | code depths => exact respells_codeStep turnable.ne_backslash turns
    | string depths => exact respells_stringStep turnable.ne_slash turns

end Diglot
