import Diglot.Proofs.LiteralEnds
import Diglot.Proofs.SteadyLexemes

/-!
# Forms of lexemes

The form of a lexeme in code says how its first characters look (`Form.begins`), and it is the same
before two texts that go on alike, unless it rests on the very characters where they part.
-/

set_option autoImplicit false

namespace Diglot

open Text (isBlank isNewline)

variable {parts : Text → Text → Prop}

/-- A quote after number signs. -/
theorem poundsBeforeQuote_eq_some {cs : Text} {n : Nat} :
    poundsBeforeQuote cs = some n ↔ ∃ tail, cs = List.replicate n '#' ++ '"' :: tail := by
  constructor
  · intro counted
    simp only [poundsBeforeQuote] at counted
    split at counted
    · next quote =>
      obtain rfl : _ = n := Option.some.inj counted
      have whole := Cut.whole_span (· == '#') cs
      rcases cut : Cut.span (· == '#') cs with ⟨signs, rest⟩
      rw [cut] at quote whole
      cases rest with
      | nil => simp at quote
      | cons q tail =>
        obtain rfl : q = '"' := by simpa using quote
        have onlySigns : signs = List.replicate signs.length '#' := by
          have spanned : Cut.span (· == '#') (signs ++ '"' :: tail) = ⟨signs, '"' :: tail⟩ := by
            rw [← Cut.whole_mk, whole, cut]
          have each := (Cut.span_eq_iff.1 spanned).1
          exact List.eq_replicate_of_mem fun c member => by simpa using each c member
        refine ⟨tail, ?_⟩
        rw [← whole, Cut.whole_mk]
        exact congrArg (· ++ '"' :: tail) onlySigns
    · simp at counted
  · rintro ⟨tail, rfl⟩
    have spanned : Cut.span (· == '#') (List.replicate n '#' ++ '"' :: tail) =
        ⟨List.replicate n '#', '"' :: tail⟩ := by
      rw [Cut.span_eq_iff]
      exact ⟨fun c member => by simp [List.eq_of_mem_replicate member], by simp⟩
    simp [poundsBeforeQuote, spanned]

/-- How the first characters of a lexeme of a form look. -/
def Form.Begins : Form → Char → Text → Prop
  | .literal, c, cs => c = '"' ∧ ['"', '"'].isPrefixOf cs = false
  | .verbatim pounds, c, cs => Literal.OpensVerbatim pounds (c :: cs)
  | .lineComment, c, cs => c = '/' ∧ cs.head? = some '/'
  | .blockComment, c, cs => c = '/' ∧ cs.head? = some '*'
  | .blank, c, _ => isBlank c = true
  | .number, c, _ => Text.isDigit c = true
  | .backslash, c, _ => c = '\\'
  | .operator, c, _ => isOperatorChar c = true
  | .punctuation, c, _ => isPunctuation c = true
  | .escapedName, c, _ => c = backtick
  | .word, c, _ => startsWord c = true
  | .stray, _, _ => True

theorem Form.begins (c : Char) (cs : Text) : (Form.ofStart c cs).Begins c cs := by
  rw [Form.ofStart]
  refine iteInduction (motive := fun form : Form => form.Begins c cs) (fun quote => ?_) fun _ => ?_
  · subst quote
    refine iteInduction (motive := fun form : Form => form.Begins '"' cs) (fun more => ?_)
      fun single => ?_
    · obtain ⟨tail, rfl⟩ := List.isPrefixOf_iff_prefix.1 more
      exact ⟨'"' :: '"' :: tail, rfl, fun _ => rfl⟩
    · exact ⟨rfl, Bool.eq_false_iff.2 single⟩
  refine iteInduction (motive := fun form : Form => form.Begins c cs) (fun pound => ?_) fun _ => ?_
  · obtain ⟨rfl, counted⟩ := pound
    obtain ⟨n, signs⟩ := Option.isSome_iff_exists.1 counted
    obtain ⟨tail, rfl⟩ := poundsBeforeQuote_eq_some.1 signs
    rw [signs]
    exact ⟨tail, rfl, by simp⟩
  -- every other test is what its form begins with
  iterate 9 refine iteInduction (motive := fun form : Form => form.Begins c cs) id fun _ => ?_
  trivial

/-! ## Tests on what follows -/

/-- Number signs before a quote that come next in the second text do so in the first text too. -/
theorem Resumes.poundsBeforeQuote (formal : FormalParting parts) {rest other : Text} {n : Nat}
    (resumes : Resumes parts rest other) (counted : poundsBeforeQuote other = some n) :
    poundsBeforeQuote rest = some n := by
  obtain ⟨tail, rfl⟩ := poundsBeforeQuote_eq_some.1 counted
  clear counted
  rw [poundsBeforeQuote_eq_some]
  induction n generalizing rest with
  | zero =>
    obtain ⟨more, rfl⟩ := List.head?_eq_some_iff.1 (resumes.quote_of_formal formal rfl)
    exact ⟨more, rfl⟩
  | succ n ih =>
    obtain ⟨more, rfl, afterSign⟩ := resumes.cons_of_formal formal (by decide)
    obtain ⟨last, rfl⟩ := ih afterSign
    exact ⟨last, rfl⟩

/-- Two quotes that come next in the second text come next in the first text too. -/
theorem Resumes.quotes (inert : InertParting parts) {rest other : Text}
    (resumes : Resumes parts rest other) (quotes : ['"', '"'].isPrefixOf other = true) :
    ['"', '"'].isPrefixOf rest = true := by
  obtain ⟨tail, rfl⟩ := List.isPrefixOf_iff_prefix.1 quotes
  rcases resumes.cons_cases inert with unasked | ⟨one, rfl, afterOne⟩
  · exact absurd unasked (by decide)
  · rcases afterOne.cons_cases inert with unasked | ⟨two, rfl, -⟩
    · exact absurd unasked (by decide)
    · simp

theorem Form.ofStart_literal {cs : Text} (single : ['"', '"'].isPrefixOf cs = false) :
    Form.ofStart '"' cs = .literal := by
  rw [Form.ofStart, if_pos rfl, if_neg (by simp [single])]

theorem Form.ofStart_triple {cs : Text} (more : ['"', '"'].isPrefixOf cs = true) :
    Form.ofStart '"' cs = .verbatim 0 := by
  rw [Form.ofStart, if_pos rfl, if_pos more]

theorem Form.ofStart_pounds {cs : Text} {n : Nat} (counted : poundsBeforeQuote cs = some n) :
    Form.ofStart '#' cs = .verbatim (n + 1) := by
  rw [Form.ofStart, if_neg (by decide), if_pos ⟨rfl, by rw [counted]; rfl⟩, counted]
  rfl

theorem Form.ofStart_line {cs : Text} (next : cs.head? = some '/') :
    Form.ofStart '/' cs = .lineComment := by
  rw [Form.ofStart, if_neg (by decide), if_neg (fun h => absurd h.1 (by decide)),
    if_pos ⟨rfl, next⟩]

theorem Form.ofStart_block {cs : Text} (next : cs.head? = some '*') :
    Form.ofStart '/' cs = .blockComment := by
  have noLine : ¬('/' = '/' ∧ cs.head? = some '/') := by simp [next]
  rw [Form.ofStart, if_neg (by decide), if_neg (fun h => absurd h.1 (by decide)), if_neg noLine,
    if_pos ⟨rfl, next⟩]

theorem Form.ofStart_punctuation {c : Char} (mark : isPunctuation c = true) (noPound : c ≠ '#')
    (cs : Text) : Form.ofStart c cs = .punctuation := by
  have each : ∀ d ∈ ['(', ')', '[', ']', '{', '}', ',', ';', ':', '.', '@', '#'],
      d ≠ '"' ∧ d ≠ '/' ∧ Text.isBlank d = false ∧ Text.isDigit d = false ∧ d ≠ '\\' ∧
        isOperatorChar d = false := forall_mem_of_all (by decide)
  obtain ⟨quote, slash, blank, digit, backslash, operator⟩ :=
    each c (by simpa [isPunctuation] using mark)
  simp [Form.ofStart, quote, noPound, slash, blank, digit, backslash, operator, mark]

theorem Form.ofStart_backtick (cs : Text) : Form.ofStart backtick cs = .escapedName := by
  have blank : isBlank backtick = false := by decide
  have digit : Text.isDigit backtick = false := by decide
  have operator : isOperatorChar backtick = false := by decide
  have mark : isPunctuation backtick = false := by decide
  simp [Form.ofStart, blank, digit, operator, mark, show backtick ≠ '"' by decide,
    show backtick ≠ '#' by decide, show backtick ≠ '/' by decide, show backtick ≠ '\\' by decide]

/-- The form is the same before two texts that go on alike, if it is no literal and does not rest on
a second character. -/
theorem Form.ofStart_of_formal (formal : FormalParting parts) {c : Char} {rest other : Text}
    (resumes : Resumes parts rest other) (noLiteral : Form.ofStart c rest ≠ .literal)
    (noVerbatim : ∀ n, Form.ofStart c rest ≠ .verbatim n)
    (noLine : Form.ofStart c rest ≠ .lineComment) (noBlock : Form.ofStart c rest ≠ .blockComment) :
    Form.ofStart c other = Form.ofStart c rest := by
  by_cases quote : c = '"'
  · subst quote
    cases more : ['"', '"'].isPrefixOf rest with
    | true => exact absurd (Form.ofStart_triple more) (noVerbatim 0)
    | false => exact absurd (Form.ofStart_literal more) noLiteral
  by_cases pound : c = '#'
  · subst pound
    have none : poundsBeforeQuote rest = none := by
      rw [Option.eq_none_iff_forall_ne_some]
      intro n counted
      exact noVerbatim (n + 1) (Form.ofStart_pounds counted)
    have noneOther : poundsBeforeQuote other = Option.none := by
      rw [Option.eq_none_iff_forall_ne_some]
      intro n counted
      simp [resumes.poundsBeforeQuote formal counted] at none
    have noSlash : '#' ≠ '/' := by decide
    simp only [Form.ofStart, quote, none, noneOther, noSlash, Option.isSome_none,
      Bool.false_eq_true, and_false, false_and, if_false]
  by_cases slash : c = '/'
  · subst slash
    have line : rest.head? ≠ some '/' := fun next => noLine (Form.ofStart_line next)
    have block : rest.head? ≠ some '*' := fun next => noBlock (Form.ofStart_block next)
    have lineOther : other.head? ≠ some '/' := fun next =>
      line (resumes.head_of_formal formal (by decide) next)
    have blockOther : other.head? ≠ some '*' := fun next =>
      block (resumes.head_of_formal formal (by decide) next)
    simp only [Form.ofStart, quote, pound, line, block, lineOther, blockOther, and_false, false_and,
      if_false]
  · simp only [Form.ofStart, quote, pound, slash, false_and, if_false]

/-- A literal too has its form before texts that part with inert characters. -/
theorem Form.ofStart_resumes (inert : InertParting parts) {c : Char} {rest other : Text}
    (resumes : Resumes parts rest other) (noVerbatim : ∀ n, Form.ofStart c rest ≠ .verbatim n)
    (noLine : Form.ofStart c rest ≠ .lineComment) (noBlock : Form.ofStart c rest ≠ .blockComment) :
    Form.ofStart c other = Form.ofStart c rest := by
  by_cases literal : Form.ofStart c rest = .literal
  · have begins := Form.begins c rest
    rw [literal] at begins
    obtain ⟨rfl, single⟩ := begins
    have singleOther : ['"', '"'].isPrefixOf other = false := by
      rw [Bool.eq_false_iff]
      intro more
      simp [resumes.quotes inert more] at single
    rw [literal, Form.ofStart_literal singleOther]
  · exact Form.ofStart_of_formal inert.formal resumes literal noVerbatim noLine noBlock

/-- A lexeme that begins as a verbatim literal does has its form. -/
theorem Form.ofStart_verbatim {pounds : Nat} {c : Char} {cs : Text}
    (opens : Literal.OpensVerbatim pounds (c :: cs)) : Form.ofStart c cs = .verbatim pounds := by
  obtain ⟨tail, same, triple⟩ := opens
  cases pounds with
  | zero =>
    obtain ⟨rfl, rfl⟩ := List.cons.inj same
    have three := triple rfl
    rw [Literal.quoteCount_eq] at three
    split at three
    · next more =>
      have two : ['"', '"'].isPrefixOf cs = true := by simpa using more
      exact Form.ofStart_triple two
    · simp at three
  | succ n =>
    rw [List.replicate_succ, List.cons_append] at same
    obtain ⟨rfl, rfl⟩ := List.cons.inj same
    have counted : poundsBeforeQuote (List.replicate n '#' ++ '"' :: tail) = some n :=
      poundsBeforeQuote_eq_some.2 ⟨tail, rfl⟩
    exact Form.ofStart_pounds counted

/-- What is taken of a verbatim literal opens one by itself, whatever follows. -/
theorem Literal.OpensVerbatim.taken {pounds : Nat} {input : Text}
    (opens : OpensVerbatim pounds input) (other : Text) :
    OpensVerbatim pounds ((verbatim pounds input).taken ++ other) := by
  obtain ⟨quotes, body, rfl, count, threeOrOne⟩ := opens.exists_body
  rw [verbatim_opening count]
  rcases threeOrOne with rfl | ⟨rfl, some_pound⟩
  · exact ⟨'"' :: '"' :: ((verbatimBody (closer pounds 3) (escape pounds) body).taken ++ other),
      by simp [opening, Cut.after, List.replicate], fun _ => rfl⟩
  · exact ⟨(verbatimBody (closer pounds 1) (escape pounds) body).taken ++ other,
      by simp [opening, Cut.after], fun none => absurd none some_pound⟩

end Diglot
