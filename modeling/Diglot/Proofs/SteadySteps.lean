import Diglot.Proofs.Forms

/-!
# Steady steps

A step of the scanner takes the same lexeme before two texts that go on alike. What the texts must
not part with depends on the form of the lexeme, so there is one lemma for each. Lexemes that stand
in localized text as they are need little for that (`codeStep_steady`); for the others the texts
may part only where a word follows (`step_steady_of_words`).
-/

set_option autoImplicit false

namespace Diglot

open Text (isBlank isNewline)

variable {parts : Text → Text → Prop} {localized : Bool} {depths : List Nat} {c : Char}
  {taken rest other : Text}

/-- The step with another text left. -/
def Step.leaving (step : Step) (other : Text) : Step :=
  { step with cut := ⟨step.cut.taken, other⟩ }

/-- A punctuation mark is the same whatever follows. -/
theorem punctuationStep_leaving (depths : List Nat) (c : Char) (cs other : Text) :
    punctuationStep depths c other = (punctuationStep depths c cs).leaving other := by
  rw [punctuationStep.eq_def, punctuationStep.eq_def]
  split
  · rfl
  · split
    · rfl
    · split
      · split <;> rfl
      · rfl

/-! ## One form of lexemes -/

theorem codeStep_steady_lineComment (inner : InnerParting parts)
    (form : Form.ofStart c (taken ++ rest) = .lineComment)
    (cut : (codeStep localized depths c (taken ++ rest)).cut = ⟨c :: taken, rest⟩)
    (resumes : Resumes parts rest other) :
    codeStep localized depths c (taken ++ other) =
      (codeStep localized depths c (taken ++ rest)).leaving other := by
  have begins := Form.begins c (taken ++ rest)
  rw [form] at begins
  obtain ⟨rfl, second⟩ := begins
  simp only [codeStep, form, Cut.after_cons_eq] at cut ⊢
  cases taken with
  | nil =>
    have stops := (Cut.span_eq_iff.1 cut).2 '/' second
    simp [isNewline] at stops
  | cons d ds =>
    obtain rfl : d = '/' := by simpa using second
    have formOther : Form.ofStart '/' ('/' :: ds ++ other) = .lineComment := Form.ofStart_line rfl
    rw [formOther]
    simp only [Comment.steady_lineTail inner cut resumes, cut]
    rfl

theorem codeStep_steady_blockComment (inner : InnerParting parts)
    (form : Form.ofStart c (taken ++ rest) = .blockComment)
    (cut : (codeStep localized depths c (taken ++ rest)).cut = ⟨c :: taken, rest⟩)
    (resumes : Resumes parts rest other) :
    codeStep localized depths c (taken ++ other) =
      (codeStep localized depths c (taken ++ rest)).leaving other := by
  have begins := Form.begins c (taken ++ rest)
  rw [form] at begins
  obtain ⟨rfl, second⟩ := begins
  simp only [codeStep, form] at cut ⊢
  cases taken with
  | nil =>
    rw [List.nil_append] at cut second
    cases rest with
    | nil => simp at second
    | cons d ds => simp [blockCommentCut, Cut.after] at cut
  | cons d ds =>
    obtain rfl : d = '*' := by simpa using second
    have formOther : Form.ofStart '/' ('*' :: ds ++ other) = .blockComment :=
      Form.ofStart_block rfl
    rw [formOther]
    rw [List.cons_append] at cut ⊢
    simp only [steady_blockCommentCut inner cut resumes, List.cons_append, cut]
    rfl

theorem codeStep_steady_blank (formal : FormalParting parts)
    (without : PartingWithout isBlank parts)
    (form : Form.ofStart c (taken ++ rest) = .blank)
    (cut : (codeStep localized depths c (taken ++ rest)).cut = ⟨c :: taken, rest⟩)
    (resumes : Resumes parts rest other) :
    codeStep localized depths c (taken ++ other) =
      (codeStep localized depths c (taken ++ rest)).leaving other := by
  have formOther : Form.ofStart c (taken ++ other) = .blank := by
    rw [Form.ofStart_of_formal formal (resumes.append taken)] <;> simp [form]
  simp only [codeStep, form, formOther, Cut.after_cons_eq] at cut ⊢
  rw [Steady.span_of_without without cut resumes, cut]
  rfl

theorem codeStep_steady_number (formal : FormalParting parts)
    (keeps : Keeps (Number.tail c) rest other)
    (form : Form.ofStart c (taken ++ rest) = .number)
    (cut : (codeStep localized depths c (taken ++ rest)).cut = ⟨c :: taken, rest⟩)
    (resumes : Resumes parts rest other) :
    codeStep localized depths c (taken ++ other) =
      (codeStep localized depths c (taken ++ rest)).leaving other := by
  have formOther : Form.ofStart c (taken ++ other) = .number := by
    rw [Form.ofStart_of_formal formal (resumes.append taken)] <;> simp [form]
  simp only [codeStep, form, formOther, Cut.after_cons_eq] at cut ⊢
  rw [keeps cut, cut]
  rfl

theorem codeStep_steady_punctuation (formal : FormalParting parts)
    (form : Form.ofStart c (taken ++ rest) = .punctuation)
    (cut : (codeStep localized depths c (taken ++ rest)).cut = ⟨c :: taken, rest⟩)
    (resumes : Resumes parts rest other) :
    codeStep localized depths c (taken ++ other) =
      (codeStep localized depths c (taken ++ rest)).leaving other := by
  have formOther : Form.ofStart c (taken ++ other) = .punctuation := by
    rw [Form.ofStart_of_formal formal (resumes.append taken)] <;> simp [form]
  simp only [codeStep, form, formOther, whole_punctuationStep] at cut ⊢
  obtain ⟨rfl, -⟩ : [] = taken ∧ taken ++ rest = rest := by simpa using cut
  exact punctuationStep_leaving depths c rest other

theorem codeStep_steady_stray (formal : FormalParting parts)
    (form : Form.ofStart c (taken ++ rest) = .stray)
    (cut : (codeStep localized depths c (taken ++ rest)).cut = ⟨c :: taken, rest⟩)
    (resumes : Resumes parts rest other) :
    codeStep localized depths c (taken ++ other) =
      (codeStep localized depths c (taken ++ rest)).leaving other := by
  have formOther : Form.ofStart c (taken ++ other) = .stray := by
    rw [Form.ofStart_of_formal formal (resumes.append taken)] <;> simp [form]
  simp only [codeStep, form, formOther] at cut ⊢
  obtain ⟨rfl, -⟩ : [] = taken ∧ taken ++ rest = rest := by simpa using cut
  rfl

/-- Whether a lexeme of the form stands in localized text as it is. -/
def Form.isVerbatim : Form → Bool
  | .lineComment | .blockComment | .blank | .number | .punctuation | .stray => true
  | .literal | .verbatim _ | .backslash | .operator | .escapedName | .word => false

/-- Comments, blanks, numbers, punctuation marks and stray characters. -/
theorem codeStep_steady (inert : InertParting parts) (inner : InnerParting parts)
    (verbatim : (Form.ofStart c (taken ++ rest)).isVerbatim = true)
    (cut : (codeStep localized depths c (taken ++ rest)).cut = ⟨c :: taken, rest⟩)
    (resumes : Resumes parts rest other) :
    codeStep localized depths c (taken ++ other) =
      (codeStep localized depths c (taken ++ rest)).leaving other := by
  cases form : Form.ofStart c (taken ++ rest) with
  | literal | verbatim | backslash | operator | escapedName | word =>
    simp [form, Form.isVerbatim] at verbatim
  | lineComment => exact codeStep_steady_lineComment inner form cut resumes
  | blockComment => exact codeStep_steady_blockComment inner form cut resumes
  | blank =>
    have without : PartingWithout isBlank parts :=
      inert.without fun _ => isBlank_eq_false_of_isInert
    exact codeStep_steady_blank inert.formal without form cut resumes
  | number =>
    have keeps := (Number.steady_tail (inert.without asked_isPart) c).keeps resumes
    exact codeStep_steady_number inert.formal keeps form cut resumes
  | punctuation => exact codeStep_steady_punctuation inert.formal form cut resumes
  | stray => exact codeStep_steady_stray inert.formal form cut resumes

/-! ## Literals and escaped names -/

theorem exists_cons_cons {input : Text} {d : Char} (second : input.tail.head? = some d) :
    ∃ c cs, input = c :: d :: cs := by
  cases input with
  | nil => simp at second
  | cons c cs =>
    obtain ⟨ds, rfl⟩ := List.head?_eq_some_iff.1 second
    exact ⟨c, ds, rfl⟩

theorem Literal.opensHere_iff {input : Text} :
    Literal.opensHere localized input = true ↔
      (input.head? = some '\\' ∨ localized = true ∧ input.head? = some '/') ∧
        input.tail.head? = some '(' := by
  rw [Literal.opensHere.eq_def]
  split
  · simp
  · simp
  · next primary slash =>
    simp only [Bool.false_eq_true, false_iff]
    rintro ⟨first, second⟩
    obtain ⟨c, cs, rfl⟩ := exists_cons_cons second
    rcases first with first | ⟨-, first⟩
    · obtain rfl : c = '\\' := by simpa using first
      exact primary cs rfl
    · obtain rfl : c = '/' := by simpa using first
      exact slash cs rfl

theorem Literal.fragment_opener {input : Text} (opens : opensHere localized input = true) :
    fragment localized input = ⟨Cut.nothing input, false⟩ := by
  obtain ⟨c, cs, rfl⟩ := exists_cons_cons (opensHere_iff.1 opens).2
  simp [fragment, opens]

theorem Literal.fragment_newline {cs : Text} (newline : isNewline c = true) :
    fragment localized (c :: cs) = ⟨Cut.nothing (c :: cs), false⟩ := by
  have feedOrReturn : c = '\n' ∨ c = '\r' := by simpa [isNewline] using newline
  cases cs with
  | nil => rcases feedOrReturn with rfl | rfl <;> simp [fragment, isNewline]
  | cons d ds => rcases feedOrReturn with rfl | rfl <;> simp [fragment, opensHere, isNewline]

/-- A fragment ends at the same place if an opener stands in the other text where one stands in the
first. -/
theorem Literal.fragment_steady {closed : Bool}
    (cut : fragment localized (taken ++ rest) = ⟨⟨taken, rest⟩, closed⟩)
    (ends : (∀ c ∈ rest.head?, isNewline c = true) → other.head? = rest.head?)
    (opener : closed = false → opensHere localized rest = true →
      opensHere localized other = true) :
    fragment localized (taken ++ other) = ⟨⟨taken, other⟩, closed⟩ := by
  have ending := fragment_ends localized (taken ++ rest)
  rw [cut] at ending
  cases ending with
  | closed isClosed nonempty same =>
    obtain rfl : closed = true := isClosed
    exact same other
  | atEnd isOpen atEnd same =>
    obtain rfl : rest = [] := atEnd
    obtain rfl : other = [] := by simpa using ends (by simp)
    exact cut
  | before isOpen stops goesOn =>
    obtain rfl : closed = false := isOpen
    rcases stops with opens | ⟨c, cs, rfl, newline⟩
    · have opensOther : opensHere localized other = true := opener rfl opens
      have first := (opensHere_iff.1 opensOther).1
      rw [goesOn other, fragment_opener opensOther]
      · simp [Fragment.after, Cut.after, Cut.nothing]
      · intro paren
        simp [paren] at first
    · obtain ⟨tail, rfl⟩ := List.head?_eq_some_iff.1 (ends (by simp [newline]))
      rw [goesOn (c :: tail), fragment_newline newline]
      · simp [Fragment.after, Cut.after, Cut.nothing]
      · intro paren
        obtain rfl : c = '(' := by simpa using paren
        exact absurd newline (by decide)

/-- A verbatim literal ends at the same place. -/
theorem Literal.verbatim_steady (inner : InnerParting parts) {pounds : Nat}
    (opens : OpensVerbatim pounds (taken ++ rest))
    (cut : verbatim pounds (taken ++ rest) = ⟨taken, rest⟩) (resumes : Resumes parts rest other) :
    verbatim pounds (taken ++ other) = ⟨taken, other⟩ := by
  have ends := verbatim_ends opens
  rw [cut] at ends
  cases ends with
  | closed same => exact same other
  | atEnd atEnd _ =>
    obtain rfl : rest = [] := atEnd
    obtain rfl := resumes.eq_nil inner
    exact cut

/-- So does a name between backticks, closed or not. -/
theorem steady_escapedNameTail (inner : InnerParting parts) : Steady parts escapedNameTail := by
  intro taken rest other cut resumes
  rcases escapedNameTail_cases (taken ++ rest) with closed | ⟨ends, goesOn⟩
  · rw [cut] at closed
    exact closed other
  · rw [cut] at ends goesOn
    rw [goesOn other]
    have sameHead := resumes.ends_of_ends inner ends
    cases other with
    | nil => simp [escapedNameTail, Cut.nothing, Cut.after]
    | cons d ds =>
      have newline := ends d (by simpa using sameHead.symm)
      simp [escapedNameTail, newline, Cut.nothing, Cut.after]

/-! ## Forms that localized text isolates -/

/-- Two quotes behind the opening quote of a literal would be there before the first text too. -/
theorem isPrefixOf_quotes_eq_false {closed : Bool}
    (inside : Literal.fragment localized (taken ++ rest) = ⟨⟨taken, rest⟩, closed⟩)
    (single : ['"', '"'].isPrefixOf (taken ++ rest) = false)
    (quote : other.head? = some '"' → rest.head? = some '"') :
    ['"', '"'].isPrefixOf (taken ++ other) = false := by
  rw [Bool.eq_false_iff]
  intro more
  obtain ⟨tail, same⟩ := List.isPrefixOf_iff_prefix.1 more
  match taken with
  | [] =>
    have same : '"' :: '"' :: tail = other := same
    obtain ⟨more, rfl⟩ := List.head?_eq_some_iff.1 (quote (by rw [← same]; rfl))
    simp [Literal.fragment_quote] at inside
  | [d] =>
    obtain ⟨rfl, next⟩ := List.cons.inj same
    have next : '"' :: tail = other := next
    obtain ⟨more, rfl⟩ := List.head?_eq_some_iff.1 (quote (by rw [← next]; rfl))
    simp at single
  | d :: e :: es =>
    obtain ⟨rfl, next⟩ := List.cons.inj same
    obtain ⟨rfl, -⟩ := List.cons.inj next
    simp at single

theorem codeStep_steady_literal (form : Form.ofStart c (taken ++ rest) = .literal)
    (cut : (codeStep localized depths c (taken ++ rest)).cut = ⟨c :: taken, rest⟩)
    (quote : other.head? = some '"' → rest.head? = some '"')
    (ends : (∀ c ∈ rest.head?, isNewline c = true) → other.head? = rest.head?)
    (opener : (codeStep localized depths c (taken ++ rest)).context = .string depths →
      Literal.opensHere localized rest = true → Literal.opensHere localized other = true) :
    codeStep localized depths c (taken ++ other) =
      (codeStep localized depths c (taken ++ rest)).leaving other := by
  have begins := Form.begins c (taken ++ rest)
  rw [form] at begins
  obtain ⟨rfl, single⟩ := begins
  rcases inside : Literal.fragment localized (taken ++ rest) with ⟨body, closed⟩
  simp only [codeStep, form, inside, Cut.after_cons_eq] at cut opener ⊢
  subst cut
  have formOther : Form.ofStart '"' (taken ++ other) = .literal :=
    Form.ofStart_literal (isPrefixOf_quotes_eq_false inside single quote)
  have sameBody : Literal.fragment localized (taken ++ other) = ⟨⟨taken, other⟩, closed⟩ :=
    Literal.fragment_steady inside ends fun isOpen => opener (by simp [contextAfter, isOpen])
  rw [formOther]
  simp only [sameBody]
  rfl

theorem codeStep_steady_verbatim (inner : InnerParting parts) {pounds : Nat}
    (form : Form.ofStart c (taken ++ rest) = .verbatim pounds)
    (cut : (codeStep localized depths c (taken ++ rest)).cut = ⟨c :: taken, rest⟩)
    (resumes : Resumes parts rest other) :
    codeStep localized depths c (taken ++ other) =
      (codeStep localized depths c (taken ++ rest)).leaving other := by
  have begins := Form.begins c (taken ++ rest)
  rw [form] at begins
  simp only [codeStep, form] at cut
  have opensOther := Literal.OpensVerbatim.taken begins other
  rw [cut] at opensOther
  have formOther : Form.ofStart c (taken ++ other) = .verbatim pounds :=
    Form.ofStart_verbatim opensOther
  have opens : Literal.OpensVerbatim pounds (c :: taken ++ rest) := begins
  have same : Literal.verbatim pounds (c :: (taken ++ other)) = ⟨c :: taken, other⟩ :=
    Literal.verbatim_steady inner opens cut resumes
  simp only [codeStep, form, formOther, same, Step.leaving, cut]

theorem codeStep_steady_escapedName (inner : InnerParting parts)
    (form : Form.ofStart c (taken ++ rest) = .escapedName)
    (cut : (codeStep localized depths c (taken ++ rest)).cut = ⟨c :: taken, rest⟩)
    (resumes : Resumes parts rest other) :
    codeStep localized depths c (taken ++ other) =
      (codeStep localized depths c (taken ++ rest)).leaving other := by
  have begins := Form.begins c (taken ++ rest)
  rw [form] at begins
  obtain rfl : c = backtick := begins
  simp only [codeStep, Form.ofStart_backtick, Cut.after_cons_eq] at cut ⊢
  rw [steady_escapedNameTail inner cut resumes, cut]
  rfl

theorem codeStep_steady_word (steady : Steady parts (Cut.span continuesWord))
    (form : Form.ofStart c (taken ++ rest) = .word)
    (cut : (codeStep localized depths c (taken ++ rest)).cut = ⟨c :: taken, rest⟩)
    (resumes : Resumes parts rest other) :
    codeStep localized depths c (taken ++ other) =
      (codeStep localized depths c (taken ++ rest)).leaving other := by
  have begins := Form.begins c (taken ++ rest)
  rw [form] at begins
  simp only [codeStep, Form.ofStart_of_startsWord begins, wordCut, Cut.after_cons_eq] at cut ⊢
  rw [steady cut resumes, cut]
  rfl

/-- A literal that ended with its line is left. -/
theorem stringStep_newline (newline : isNewline c = true) (cs : Text) :
    stringStep localized depths c cs = codeStep localized depths c cs := by
  have noOpener : Literal.opensHere localized (c :: cs) ≠ true := by
    rw [ne_eq, Literal.opensHere_iff]
    rintro ⟨first, -⟩
    rcases (by simpa using first : c = '\\' ∨ localized = true ∧ c = '/') with rfl | ⟨-, rfl⟩
    · simp [isNewline] at newline
    · simp [isNewline] at newline
  rw [stringStep, if_neg noOpener, if_pos newline]

theorem stringStep_steady_fragment
    (noOpener : Literal.opensHere localized (c :: (taken ++ rest)) = false)
    (inside : isNewline c = false)
    (cut : (stringStep localized depths c (taken ++ rest)).cut = ⟨c :: taken, rest⟩)
    (paren : other.head? = some '(' → rest.head? = some '(')
    (ends : (∀ c ∈ rest.head?, isNewline c = true) → other.head? = rest.head?)
    (opener : (stringStep localized depths c (taken ++ rest)).context = .string depths →
      Literal.opensHere localized rest = true → Literal.opensHere localized other = true) :
    stringStep localized depths c (taken ++ other) =
      (stringStep localized depths c (taken ++ rest)).leaving other := by
  have noOpenerOther : Literal.opensHere localized (c :: (taken ++ other)) = false := by
    rw [Bool.eq_false_iff, ne_eq, Literal.opensHere_iff] at noOpener ⊢
    rintro ⟨first, second⟩
    refine noOpener ⟨first, ?_⟩
    cases taken with
    | nil => exact paren second
    | cons d ds => exact second
  rcases body : Literal.fragment localized (c :: taken ++ rest) with ⟨bodyCut, closed⟩
  have body : Literal.fragment localized (c :: (taken ++ rest)) = ⟨bodyCut, closed⟩ := body
  simp only [stringStep, noOpener, inside, body, Bool.false_eq_true, if_false] at cut opener
  subst cut
  have sameBody : Literal.fragment localized (c :: taken ++ other) =
      ⟨⟨c :: taken, other⟩, closed⟩ :=
    Literal.fragment_steady body ends fun isOpen => opener (by simp [contextAfter, isOpen])
  have sameBody : Literal.fragment localized (c :: (taken ++ other)) = _ := sameBody
  simp only [stringStep, noOpener, noOpenerOther, inside, body, sameBody, Bool.false_eq_true,
    if_false]
  rfl

/-! ## Texts that part where a word follows -/

/-- An opener that stands in one of the texts stands in the other. -/
theorem Resumes.opensHere (words : WordParting parts) (resumes : Resumes parts rest other) :
    Literal.opensHere localized rest = Literal.opensHere localized other := by
  rw [Bool.eq_iff_iff, Literal.opensHere_iff, Literal.opensHere_iff]
  constructor
  · rintro ⟨first, second⟩
    obtain ⟨c, cs, rfl⟩ := exists_cons_cons second
    have noWord : startsWord c = false := by
      rcases first with first | ⟨-, first⟩
      · obtain rfl : c = '\\' := by simpa using first
        decide
      · obtain rfl : c = '/' := by simpa using first
        decide
    obtain ⟨tail, rfl, afterFirst⟩ := resumes.cons_of_words words noWord
    obtain ⟨more, rfl, -⟩ := afterFirst.cons_of_words words (by decide)
    exact ⟨first, rfl⟩
  · rintro ⟨first, second⟩
    obtain ⟨c, cs, rfl⟩ := exists_cons_cons second
    have noWord : startsWord c = false := by
      rcases first with first | ⟨-, first⟩
      · obtain rfl : c = '\\' := by simpa using first
        decide
      · obtain rfl : c = '/' := by simpa using first
        decide
    obtain ⟨tail, rfl, afterFirst⟩ := resumes.cons_of_words_second words noWord
    exact ⟨first, afterFirst.head_of_words words (by decide) second⟩

/-- A number literal may go on with a word, so that it has to be kept; other lexemes do not. -/
theorem codeStep_steady_of_words (words : WordParting parts)
    (number : (codeStep localized depths c (taken ++ rest)).kind = .numberLiteral →
      Keeps (Number.tail c) rest other)
    (cut : (codeStep localized depths c (taken ++ rest)).cut = ⟨c :: taken, rest⟩)
    (resumes : Resumes parts rest other) :
    codeStep localized depths c (taken ++ other) =
      (codeStep localized depths c (taken ++ rest)).leaving other := by
  have formal := words.formal
  have inner := words.inner
  cases form : Form.ofStart c (taken ++ rest) with
  | literal =>
    refine codeStep_steady_literal form cut (resumes.quote_of_formal formal)
      (resumes.ends_of_ends inner) fun _ opens => ?_
    rw [← resumes.opensHere words, opens]
  | verbatim pounds => exact codeStep_steady_verbatim inner form cut resumes
  | lineComment => exact codeStep_steady_lineComment inner form cut resumes
  | blockComment => exact codeStep_steady_blockComment inner form cut resumes
  | blank =>
    have without : PartingWithout isBlank parts := words.without fun _ =>
      isBlank_eq_false_of_startsWord
    exact codeStep_steady_blank formal without form cut resumes
  | number =>
    exact codeStep_steady_number formal (number (by simp [codeStep, form])) form cut resumes
  | backslash =>
    have formOther : Form.ofStart c (taken ++ other) = .backslash := by
      rw [Form.ofStart_of_formal formal (resumes.append taken)] <;> simp [form]
    simp only [codeStep, form, formOther] at cut ⊢
    obtain ⟨rfl, -⟩ : [] = taken ∧ taken ++ rest = rest := by simpa using cut
    rfl
  | operator =>
    have formOther : Form.ofStart c (taken ++ other) = .operator := by
      rw [Form.ofStart_of_formal formal (resumes.append taken)] <;> simp [form]
    simp only [codeStep, form, formOther, Cut.after_cons_eq] at cut ⊢
    rw [steady_operatorTail words cut resumes, cut]
    rfl
  | punctuation => exact codeStep_steady_punctuation formal form cut resumes
  | escapedName => exact codeStep_steady_escapedName inner form cut resumes
  | word => exact codeStep_steady_word (steady_wordSpan words) form cut resumes
  | stray => exact codeStep_steady_stray formal form cut resumes

theorem stringStep_steady_of_words (words : WordParting parts)
    (number : (stringStep localized depths c (taken ++ rest)).kind = .numberLiteral →
      Keeps (Number.tail c) rest other)
    (cut : (stringStep localized depths c (taken ++ rest)).cut = ⟨c :: taken, rest⟩)
    (resumes : Resumes parts rest other) :
    stringStep localized depths c (taken ++ other) =
      (stringStep localized depths c (taken ++ rest)).leaving other := by
  by_cases opens : Literal.opensHere localized (c :: (taken ++ rest)) = true
  · have opensOther : Literal.opensHere localized (c :: (taken ++ other)) = true :=
      (resumes.append (c :: taken)).opensHere words ▸ opens
    simp only [stringStep, opens, opensOther, if_true] at cut ⊢
    have one : taken = ['('] := by
      have sameTaken : (taken ++ rest).take 1 = taken := by simpa using congrArg Cut.taken cut
      have starts : (taken ++ rest).head? = some '(' := (Literal.opensHere_iff.1 opens).2
      obtain ⟨ds, same⟩ := List.head?_eq_some_iff.1 starts
      rw [← sameTaken, same]
      rfl
    subst one
    rfl
  · by_cases newline : isNewline c = true
    · rw [stringStep_newline newline, stringStep_newline newline] at *
      exact codeStep_steady_of_words words number cut resumes
    · refine stringStep_steady_fragment (by simpa using opens) (by simpa using newline) cut
        (resumes.head_of_words words (by decide)) (resumes.ends_of_ends words.inner)
        fun _ opens => ?_
      rw [← resumes.opensHere words, opens]

/-- A step takes the same lexeme before two texts that part only where a word follows, or a number
literal that does not go on with the word. -/
theorem step_steady_of_words (words : WordParting parts) {context : Context}
    (number : (step localized context c (taken ++ rest)).kind = .numberLiteral →
      Keeps (Number.tail c) rest other)
    (cut : (step localized context c (taken ++ rest)).cut = ⟨c :: taken, rest⟩)
    (resumes : Resumes parts rest other) :
    step localized context c (taken ++ other) =
      (step localized context c (taken ++ rest)).leaving other := by
  cases context with
  | code depths => exact codeStep_steady_of_words words number cut resumes
  | string depths => exact stringStep_steady_of_words words number cut resumes

end Diglot
