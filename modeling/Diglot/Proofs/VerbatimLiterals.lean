import Diglot.Proofs.CodeTokens

/-!
# Verbatim literals

A grammar of verbatim literals: between its opening and its closer a literal holds escapes, each
with the character it protects, and characters at which neither an escape nor the closer starts.
The latter depends on what follows, so the grammar describes a text before a rest.

The search for the closer passes what the grammar allows (`verbatimBody_items`), and where it finds
the closer, the grammar allows what it has passed (`closed_verbatimBody`). So a verbatim literal in
code is the one front of the source that the grammar allows, and all of the source if there is none
(`verbatim_literal_grammar`).
-/

set_option autoImplicit false

namespace Diglot

namespace Literal

/-! ## The grammar -/

/-- The text may stand in a verbatim literal, before the rest of the input: it is made of escaped
characters and of characters at which neither an escape nor the closer starts. -/
inductive VerbatimItems (closer escape : Text) : Text → Text → Prop
  | none (rest : Text) : VerbatimItems closer escape [] rest
  | escaped {c : Char} {more rest : Text} : VerbatimItems closer escape more rest →
      VerbatimItems closer escape (escape ++ c :: more) rest
  | plain {c : Char} {more rest : Text} : ¬escape <+: c :: (more ++ rest) →
      ¬closer <+: c :: (more ++ rest) → VerbatimItems closer escape more rest →
      VerbatimItems closer escape (c :: more) rest

/-- The text goes on with what may stand in a verbatim literal and ends with the closer, before the
rest of the input. -/
def Closed (closer escape text rest : Text) : Prop :=
  ∃ inside, text = inside ++ closer ∧ VerbatimItems closer escape inside (closer ++ rest)

/-- The text is a verbatim literal with this many number signs and quotes, before the rest of the
input. -/
def Verbatim (pounds quotes : Nat) (text rest : Text) : Prop :=
  ∃ body, text = opening pounds quotes ++ body ∧
    Closed (closer pounds quotes) (escape pounds) body rest

/-! ## What the search passes -/

section

variable {closer escape : Text}

theorem verbatimBody_escaped (some_escape : escape ≠ []) (c : Char) (more : Text) :
    verbatimBody closer escape (escape ++ c :: more) =
      (verbatimBody closer escape more).after (escape ++ [c]) := by
  obtain ⟨first, signs, rfl⟩ := List.exists_cons_of_ne_nil some_escape
  have begins : first :: signs <+: first :: (signs ++ [c]) := ⟨[c], rfl⟩
  have taken : (signs ++ [c]).take (first :: signs).length = signs ++ [c] :=
    List.take_of_length_le (by simp)
  have passed : verbatimBody closer (first :: signs) _ = _ :=
    verbatimBody_escape begins (by simp) more
  rw [taken] at passed
  simpa using passed

/-- What may stand in a literal is passed, whatever follows it. -/
theorem verbatimBody_items {inside rest : Text} (some_escape : escape ≠ [])
    (items : VerbatimItems closer escape inside rest) :
    verbatimBody closer escape (inside ++ rest) =
      (verbatimBody closer escape rest).after inside := by
  induction items with
  | none rest => rfl
  | escaped items ih =>
    rw [List.append_assoc, List.cons_append, verbatimBody_escaped some_escape, ih]
    simp [Cut.after]
  | plain noEscape noCloser items ih =>
    rw [← List.isPrefixOf_iff_prefix, Bool.not_eq_true] at noEscape noCloser
    rw [List.cons_append, verbatimBody_plain noEscape noCloser, ih]
    simp [Cut.after]

/-! ## What the search stops behind -/

theorem Closed.escaped {text rest : Text} (closed : Closed closer escape text rest) (c : Char) :
    Closed closer escape (escape ++ c :: text) rest := by
  obtain ⟨inside, rfl, items⟩ := closed
  exact ⟨escape ++ c :: inside, by simp, .escaped items⟩

theorem Closed.plain {c : Char} {text rest : Text} (noEscape : ¬escape <+: c :: (text ++ rest))
    (noCloser : ¬closer <+: c :: (text ++ rest)) (closed : Closed closer escape text rest) :
    Closed closer escape (c :: text) rest := by
  obtain ⟨inside, rfl, items⟩ := closed
  rw [List.append_assoc] at noEscape noCloser
  exact ⟨c :: inside, rfl, .plain noEscape noCloser items⟩

/-- An escape that stands here protects a character, or the text ends with it. -/
theorem escape_cases {c : Char} {cs : Text} (escapes : escape <+: c :: cs) :
    cs.drop escape.length = [] ∨
      ∃ d, c :: cs.take escape.length = escape ++ [d] := by
  obtain ⟨tail, same⟩ := escapes
  cases tail with
  | nil =>
    rw [List.append_nil] at same
    exact .inl (by simp [same])
  | cons d more =>
    refine .inr ⟨d, ?_⟩
    have fronts := congrArg (List.take (escape.length + 1)) same
    rw [List.take_length_add_append, List.take_succ_cons] at fronts
    exact fronts.symm

/-- Where the search stops before the end of the text, it stops behind a closer. -/
theorem closed_verbatimBody (input : Text) :
    Closed closer escape (verbatimBody closer escape input).taken
        (verbatimBody closer escape input).rest ∨
      (verbatimBody closer escape input).rest = [] := by
  fun_induction verbatimBody closer escape input with
  | case1 => exact .inr rfl
  | case2 c cs escapes ih =>
    rcases escape_cases (List.isPrefixOf_iff_prefix.1 escapes) with ended | ⟨d, front⟩
    · rw [ended, verbatimBody]
      exact .inr rfl
    · refine ih.imp (fun closed => ?_) id
      simp only [Cut.after, front, List.append_assoc]
      exact closed.escaped d
  | case3 c cs noEscape closes => exact .inl ⟨[], rfl, .none _⟩
  | case4 c cs noEscape noCloser ih =>
    have whole : (verbatimBody closer escape cs).taken ++
        (verbatimBody closer escape cs).rest = cs := whole_verbatimBody closer escape cs
    rw [List.isPrefixOf_iff_prefix, ← whole] at noEscape noCloser
    exact ih.imp (Closed.plain noEscape noCloser) id

end

/-! ## Whole literals -/

variable {pounds quotes : Nat} {text body rest : Text}

theorem verbatimBody_of_closed (some_quote : 0 < quotes)
    (closed : Closed (closer pounds quotes) (escape pounds) text rest) :
    verbatimBody (closer pounds quotes) (escape pounds) (text ++ rest) = ⟨text, rest⟩ := by
  obtain ⟨inside, rfl, items⟩ := closed
  have shorter : (escape pounds).length ≤ (closer pounds quotes).length := by
    simp only [escape, closer, List.length_cons, List.length_append, List.length_replicate]
    omega
  obtain ⟨more, quoted⟩ : ∃ more, closer pounds quotes = '"' :: more := by
    obtain ⟨n, rfl⟩ := Nat.exists_eq_succ_of_ne_zero (Nat.ne_of_gt some_quote)
    exact ⟨_, rfl⟩
  have noEscape : (escape pounds).isPrefixOf (closer pounds quotes) = false := by
    rw [quoted]
    rfl
  rw [List.append_assoc, verbatimBody_items (by simp [escape]) items,
    verbatimBody_closer shorter (by simp [quoted]) noEscape]
  rfl

/-- A literal of the grammar is taken exactly, whatever follows it. -/
theorem verbatim_of_form (some_quote : 0 < quotes)
    (count : quoteCount (List.replicate quotes '"' ++ body) = quotes)
    (split : opening pounds quotes ++ body = text ++ rest)
    (formed : Verbatim pounds quotes text rest) :
    verbatim pounds (opening pounds quotes ++ body) = ⟨text, rest⟩ := by
  obtain ⟨inside, rfl, closed⟩ := formed
  rw [List.append_assoc, List.append_cancel_left_eq] at split
  subst split
  rw [verbatim_opening count, verbatimBody_of_closed some_quote closed]
  rfl

/-- A literal that does not end with the text is one of the grammar. -/
theorem form_of_verbatim (count : quoteCount (List.replicate quotes '"' ++ body) = quotes) :
    Verbatim pounds quotes (verbatim pounds (opening pounds quotes ++ body)).taken
        (verbatim pounds (opening pounds quotes ++ body)).rest ∨
      (verbatim pounds (opening pounds quotes ++ body)).rest = [] := by
  rw [verbatim_opening count]
  exact (closed_verbatimBody body).imp (fun closed => ⟨_, rfl, closed⟩) id

/-- What stands before a verbatim literal's body: number signs and then three quotes or one. -/
theorem opensVerbatim_of_isPrefix {input : Text}
    (opens : List.replicate pounds '#' ++ ['"'] <+: input)
    (triple : pounds = 0 → ['"', '"', '"'] <+: input) : OpensVerbatim pounds input := by
  obtain ⟨tail, here⟩ := opens
  rw [List.append_assoc, List.singleton_append] at here
  refine ⟨tail, here.symm, ?_⟩
  rintro rfl
  have three : ['"', '"', '"'] <+: '"' :: tail := by simpa [← here] using triple rfl
  rw [quoteCount_eq, if_pos (List.isPrefixOf_iff_prefix.2 three)]

/-- Where a verbatim literal opens, the quotes behind its number signs are three if there are three,
and otherwise one. -/
theorem OpensVerbatim.eq_opening {input : Text} (opens : OpensVerbatim pounds input)
    (quotesHere : quotes = if ['"', '"', '"'] <+: input.drop pounds then 3 else 1) :
    0 < quotes ∧ ∃ body, input = opening pounds quotes ++ body ∧
      quoteCount (List.replicate quotes '"' ++ body) = quotes := by
  obtain ⟨count, body, rfl, counted, -⟩ := opens.exists_body
  have afterPounds : (opening pounds count ++ body).drop pounds =
      List.replicate count '"' ++ body := by
    rw [opening, List.append_assoc]
    exact List.drop_left' (by simp)
  have same : quotes = count := by
    simp only [quoteCount_eq, List.isPrefixOf_iff_prefix] at counted
    rw [quotesHere, afterPounds, counted]
  subst same
  refine ⟨?_, body, rfl, counted⟩
  rw [quotesHere]
  split <;> decide

end Literal

/-! ## Literals of a scan -/

/-- Where a verbatim literal opens in code, the next token is a string literal: the only front of
what follows in the source that is a verbatim literal of the grammar, or all that follows if there
is none. -/
theorem verbatim_literal_grammar (localized : Bool) (source : Text) (cursor : Cursor)
    (pounds quotes : Nat) (reached : Cursor.Reached source localized cursor)
    (inCode : cursor.frames.head? ≠ some .string)
    (opens : List.replicate pounds '#' ++ ['"'] <+: source.drop cursor.position)
    (triple : pounds = 0 → ['"', '"', '"'] <+: source.drop cursor.position)
    (quotesHere : quotes =
      if ['"', '"', '"'] <+: (source.drop cursor.position).drop pounds then 3 else 1) :
    ∃ text, Cursor.Records source localized cursor ⟨.stringLiteral, text⟩ ∧
      OnlyFront (Literal.Verbatim pounds quotes) (source.drop cursor.position) text := by
  have opensVerbatim := Literal.opensVerbatim_of_isPrefix opens triple
  obtain ⟨some_quote, body, here, counted⟩ := opensVerbatim.eq_opening quotesHere
  obtain ⟨c, cs, first⟩ := List.exists_cons_of_ne_nil (opens.ne_nil (by simp))
  rw [first] at opensVerbatim
  have form : Form.ofStart c cs = .verbatim pounds := Form.ofStart_verbatim opensVerbatim
  have stepped : codeStep localized [] c cs =
      ⟨.stringLiteral, Literal.verbatim pounds (c :: cs), .code []⟩ := by rw [codeStep, form]
  have records := reached.records inCode first (by simp [form]) (by simp [form])
  rw [stepped] at records
  refine ⟨_, records, ?_⟩
  rw [← first, here]
  apply onlyFront_of_cut (Literal.whole_verbatim _ _)
  · exact fun text rest split formed => Literal.verbatim_of_form some_quote counted split formed
  · exact Literal.form_of_verbatim counted

/-- A literal with a closer and an escape that have too few number signs, and an escaped quote
before the closer. -/
def roughText : Text := "##\"a\"#\\#\\##\"\"##b".toList

theorem verbatim_literal_grammar_rough :
    Cursor.Records roughText false .start ⟨.stringLiteral, "##\"a\"#\\#\\##\"\"##".toList⟩ ∧
      OnlyFront (Literal.Verbatim 2 1) roughText "##\"a\"#\\#\\##\"\"##".toList := by
  have scanned : scan false roughText = Token.place 0
      [⟨.stringLiteral, "##\"a\"#\\#\\##\"\"##".toList⟩, ⟨.identifier, ['b']⟩] :=
    congrArg (Token.place 0) (by decide +kernel)
  obtain ⟨text, records, only⟩ := verbatim_literal_grammar false roughText .start 2 1 .start
    (by decide) (by decide) (by decide) (by decide)
  obtain rfl : text = "##\"a\"#\\#\\##\"\"##".toList :=
    congrArg Lexeme.text (records.eq_of_scan scanned)
  exact ⟨records, only⟩

end Diglot
