import Diglot.Proofs.BareLexemes
import Diglot.Rewording
import Mathlib.Data.List.Forall2

/-!
# Localized text can be read back

Lexemes whose words were replaced by other words are written as localized text. Reading that text
gives the lexemes back, bare of controls, except that operators and openers have their slashes
turned round and that the kind of a word is the kind of the new word (`bareLexemes_render`).

The induction follows the scan of the text that the lexemes came from: one step of it corresponds
to the isolate, or the plain text, that localized text has for its lexeme
(`Step.ReadsBack`).
-/

set_option autoImplicit false

namespace Diglot

open Text (isNewline)
open Markup (isControl popIsolate isolate markedText leftIsolate firstStrongIsolate leftMark)

/-- The lexeme is the same, or a word stands for a word. -/
def Rephrases (lexeme told : Lexeme) : Prop :=
  told = lexeme ∨
    Scope.full.affects lexeme.kind = true ∧ told.kind = lexeme.kind ∧ isWord told.text = true

/-- The lexemes that the localized text of a lexeme is read as. -/
def Lexeme.respelled (lexeme : Lexeme) : List Lexeme :=
  match lexeme.kind with
  | .operator => (slashPieces (Markup.swapSlashes lexeme.text)).map (Lexeme.mk .operator)
  | .delimiter => [⟨.delimiter, Markup.localizedDelimiter lexeme.text⟩]
  | .keyword | .identifier =>
    [⟨if lexeme.text.head? = some backtick then .identifier else wordKind lexeme.text,
      lexeme.text⟩]
  | .stringLiteral | .comment | .whitespace | .punctuation | .numberLiteral | .unknown => [lexeme]

/-! ## Where localized text parts from its source -/

/-- The source goes on within its line, and the localized text with a control or a bracket. -/
def MarkedParting (rest other : Text) : Prop :=
  (∃ c cs, rest = c :: cs ∧ isNewline c = false) ∧
    ∃ c cs, other = c :: cs ∧ (isControl c = true ∨ Markup.isOpeningBracket [c] = true)

theorem innerParting_marked : InnerParting MarkedParting := fun _ _ apart => apart.1

theorem inertParting_marked : InertParting MarkedParting := by
  rintro rest other ⟨-, c, cs, rfl, control | bracket⟩
  · exact ⟨c, cs, rfl, isInert_of_isControl control⟩
  · refine ⟨c, cs, rfl, ?_⟩
    rcases (by simpa [Markup.isOpeningBracket] using bracket : c = '(' ∨ c = '[' ∨ c = '{')
      with rfl | rfl | rfl <;> decide

/-- A control may follow anything that does not look for it. -/
def ControlParting (_ other : Text) : Prop :=
  ∃ c cs, other = c :: cs ∧ isControl c = true

theorem inertParting_control : InertParting ControlParting := by
  rintro rest other ⟨c, cs, rfl, control⟩
  exact ⟨c, cs, rfl, isInert_of_isControl control⟩

theorem markedText_word (lexeme : Lexeme) (name : Scope.full.affects lexeme.kind = true) :
    ∃ opener, isControl opener = true ∧ markedText lexeme = isolate opener lexeme.text := by
  refine ⟨if Markup.hasRightToLeft lexeme.text then Markup.rightIsolate else leftIsolate, ?_, ?_⟩
  · split <;> decide
  · rcases affects_full_iff.1 name with keyword | identifier
    · simp [markedText, keyword]
    · simp [markedText, identifier]

/-- The localized text of a lexeme is its text, its text with a mark behind, or begins with a
control. -/
theorem markedText_cases (lexeme : Lexeme) :
    markedText lexeme = lexeme.text ∨
      (Markup.isOpeningBracket lexeme.text = true ∧
        markedText lexeme = lexeme.text ++ [leftMark]) ∨
      lexeme.kind ≠ .whitespace ∧
        ∃ opener tail, isControl opener = true ∧ markedText lexeme = opener :: tail := by
  rcases lexeme with ⟨kind, text⟩
  cases kind with
  | keyword =>
    obtain ⟨opener, control, same⟩ := markedText_word ⟨.keyword, text⟩ rfl
    exact .inr (.inr ⟨by simp, opener, text ++ [popIsolate], control, same⟩)
  | identifier =>
    obtain ⟨opener, control, same⟩ := markedText_word ⟨.identifier, text⟩ rfl
    exact .inr (.inr ⟨by simp, opener, text ++ [popIsolate], control, same⟩)
  | stringLiteral =>
    exact .inr (.inr ⟨by simp, firstStrongIsolate, text ++ [popIsolate], by decide, rfl⟩)
  | operator =>
    exact .inr (.inr ⟨by simp, leftIsolate, Markup.swapSlashes text ++ [popIsolate], by decide,
      rfl⟩)
  | delimiter =>
    exact .inr (.inr ⟨by simp, leftIsolate, Markup.localizedDelimiter text ++ [popIsolate],
      by decide, rfl⟩)
  | punctuation =>
    cases bracket : Markup.isOpeningBracket text with
    | true => exact .inr (.inl ⟨rfl, by simp [markedText, bracket]⟩)
    | false => exact .inl (by simp [markedText, bracket])
  | whitespace | comment | numberLiteral | unknown => exact .inl rfl

theorem render_localized_cons (lexeme : Lexeme) (lexemes : List Lexeme) :
    Markup.render .localized (lexeme :: lexemes) =
      markedText lexeme ++ Markup.render .localized lexemes := by
  simp [Markup.render, Markup.lexemeText]

/-- Localized text goes on like the text of its lexemes up to the first control or bracket. -/
theorem resumes_render {lexemes told : List Lexeme}
    (shaped : ∀ lexeme ∈ lexemes, lexeme.Shaped true)
    (rephrased : List.Forall₂ Rephrases lexemes told) :
    Resumes MarkedParting (Lexeme.concat lexemes) (Markup.render .localized told) := by
  induction rephrased with
  | nil => exact .ended
  | @cons lexeme toldLexeme lexemes told rephrases _ ih =>
    have ih := ih fun l member => shaped l (List.mem_cons_of_mem _ member)
    have first := shaped lexeme (by simp)
    have inside (other : lexeme.kind ≠ .whitespace) :
        ∃ c cs, lexeme.text ++ Lexeme.concat lexemes = c :: cs ∧ isNewline c = false := by
      obtain ⟨c, cs, same⟩ := List.exists_cons_of_ne_nil first.nonempty
      exact ⟨c, cs ++ Lexeme.concat lexemes, by rw [same]; rfl,
        first.inLine other c (by simp [same])⟩
    rw [Lexeme.concat_cons, render_localized_cons]
    have isolated {o : Char} {tail : Text} (other : lexeme.kind ≠ .whitespace)
        (control : isControl o = true) (marked : markedText toldLexeme = o :: tail) :
        Resumes MarkedParting (lexeme.text ++ Lexeme.concat lexemes)
          (markedText toldLexeme ++ Markup.render .localized told) :=
      .parted ⟨inside other, o, _, by rw [marked]; rfl, .inl control⟩
    rcases rephrases with rfl | ⟨name, sameKind, -⟩
    · rcases markedText_cases toldLexeme with
        same | ⟨bracket, marked⟩ | ⟨other, o, tail, control, marked⟩
      · rw [same]
        exact ih.append toldLexeme.text
      · obtain ⟨c, text⟩ : ∃ c, toldLexeme.text = [c] := by
          rcases (by simpa [Markup.isOpeningBracket] using bracket :
            toldLexeme.text = ['('] ∨ toldLexeme.text = ['['] ∨ toldLexeme.text = ['{'])
            with same | same | same <;> exact ⟨_, same⟩
        rw [text] at bracket
        have other : toldLexeme.kind ≠ .whitespace := by
          intro whitespace
          simp [markedText, whitespace] at marked
        exact .parted ⟨inside other, c, _, by rw [marked, text]; rfl, .inr bracket⟩
      · exact isolated other control marked
    · obtain ⟨opener, control, marked⟩ := markedText_word toldLexeme (sameKind ▸ name)
      have other : lexeme.kind ≠ .whitespace := by
        intro whitespace
        simp [whitespace, Scope.affects] at name
      exact isolated other control marked

/-! ## One lexeme -/

variable {depths : List Nat} {context : Context} {next : Step} {c : Char}
  {cs taken rest other : Text}

/-- The lexeme of a step is read back from localized text that goes on with `other`. -/
def Step.ReadsBack (next : Step) (context : Context) (other : Text) : Prop :=
  bareLexemes (lexemesFrom true context (markedText ⟨next.kind, next.cut.taken⟩ ++ other)) =
    Lexeme.respelled ⟨next.kind, next.cut.taken⟩ ++
      bareLexemes (lexemesFrom true next.context other)

/-- An isolated lexeme, perhaps with the end of the isolate in it. -/
theorem Step.readsBack_of_isolated {kind : Kind} {opener : Char} {cut : Cut}
    (marked : markedText ⟨next.kind, next.cut.taken⟩ = isolate opener (c :: cs))
    (control : isControl opener = true)
    (spelled : Lexeme.respelled ⟨next.kind, next.cut.taken⟩ = [⟨kind, c :: cs⟩])
    (stepped : step true context c (cs ++ popIsolate :: other) = ⟨kind, cut, next.context⟩)
    (absorbs : Absorbs true next.context cut (c :: cs) other)
    (plain : Uncontrolled (c :: cs)) : next.ReadsBack context other := by
  rw [ReadsBack, marked, spelled, isolate_append, bareLexemes_control control]
  exact bareLexemes_of_absorbs stepped absorbs plain (List.cons_ne_nil c cs)

/-- A lexeme that stands as it is, and is taken before `other` as in the source. -/
theorem Step.readsBack_of_steady
    (marked : markedText ⟨next.kind, c :: taken⟩ = c :: taken)
    (spelled : Lexeme.respelled ⟨next.kind, c :: taken⟩ = [⟨next.kind, c :: taken⟩])
    (cut : next.cut = ⟨c :: taken, rest⟩)
    (steady : step true context c (taken ++ other) = next.leaving other)
    (plain : Uncontrolled (c :: taken)) : next.ReadsBack context other := by
  rw [ReadsBack, cut]
  dsimp only
  rw [marked, spelled, List.cons_append, lexemesFrom_cons, steady]
  simp only [Step.leaving, cut]
  exact bareLexemes_cons plain.stripControls (List.cons_ne_nil c taken) _

/-- What a step in code takes, and what it leaves. -/
theorem codeStep_cut_eq (localized : Bool) (depths : List Nat) (c : Char) (cs : Text) :
    ∃ taken rest, cs = taken ++ rest ∧
      (codeStep localized depths c cs).cut = ⟨c :: taken, rest⟩ := by
  obtain ⟨taken, first, tail⟩ := step_taken_eq localized (.code depths) c cs
  exact ⟨taken, _, tail, congrArg (Cut.mk · _) first⟩

/-! ### Punctuation marks -/

theorem step_punctuation (mark : isPunctuation c = true) (noPound : c ≠ '#') (cs more : Text) :
    step true (.code depths) c more = (punctuationStep depths c cs).leaving more := by
  rw [step, codeStep, Form.ofStart_punctuation mark noPound]
  exact punctuationStep_leaving depths c cs more

theorem uncontrolled_punctuation (mark : isPunctuation c = true) : Uncontrolled [c] := by
  have each : ∀ d ∈ ['(', ')', '[', ']', '{', '}', ',', ';', ':', '.', '@', '#'],
      isControl d = false := forall_mem_of_all (by decide)
  intro d member
  obtain rfl : d = c := by simpa using member
  exact each d (by simpa [isPunctuation] using mark)

/-- An opening bracket, with the mark behind it. -/
theorem readsBack_bracket (mark : isPunctuation c = true)
    (kind : (punctuationStep depths c cs).kind = .punctuation)
    (bracket : Markup.isOpeningBracket [c] = true) :
    (punctuationStep depths c cs).ReadsBack (.code depths) other := by
  have cut := whole_punctuationStep depths c cs
  have noPound : c ≠ '#' := by
    rintro rfl
    exact absurd bracket (by decide)
  have marked : markedText ⟨(punctuationStep depths c cs).kind, [c]⟩ ++ other =
      c :: leftMark :: other := by simp [markedText, kind, bracket]
  have spelled : Lexeme.respelled ⟨(punctuationStep depths c cs).kind, [c]⟩ =
      [⟨(punctuationStep depths c cs).kind, [c]⟩] := by simp [Lexeme.respelled, kind]
  have absorbs : Absorbs true (punctuationStep depths c cs).context
      ⟨[c], leftMark :: other⟩ [c] other := .closed_control (by decide)
  have stepped : step true (.code depths) c (leftMark :: other) =
      (punctuationStep depths c cs).leaving (leftMark :: other) :=
    step_punctuation mark noPound cs _
  rw [Step.leaving, cut] at stepped
  rw [Step.ReadsBack, cut]
  dsimp only
  rw [marked, spelled]
  exact bareLexemes_of_absorbs stepped absorbs (uncontrolled_punctuation mark)
    (List.cons_ne_nil c [])

/-- Another punctuation mark stands as it is. -/
theorem readsBack_mark (mark : isPunctuation c = true) (form : Form.ofStart c cs = .punctuation)
    (kind : (punctuationStep depths c cs).kind = .punctuation)
    (noBracket : Markup.isOpeningBracket [c] = false)
    (resumes : Resumes MarkedParting cs other) :
    (punctuationStep depths c cs).ReadsBack (.code depths) other := by
  have cut := whole_punctuationStep depths c cs
  have marked : markedText ⟨(punctuationStep depths c cs).kind, [c]⟩ = [c] := by
    simp [markedText, kind, noBracket]
  have spelled : Lexeme.respelled ⟨(punctuationStep depths c cs).kind, [c]⟩ =
      [⟨(punctuationStep depths c cs).kind, [c]⟩] := by simp [Lexeme.respelled, kind]
  have sameStep : codeStep true depths c ([] ++ cs) = punctuationStep depths c cs := by
    rw [List.nil_append, codeStep, form]
  have verbatim : (Form.ofStart c ([] ++ cs)).isVerbatim = true := by
    rw [List.nil_append, form]
    rfl
  have steady : codeStep true depths c ([] ++ other) =
      (codeStep true depths c ([] ++ cs)).leaving other :=
    codeStep_steady inertParting_marked innerParting_marked verbatim (by rw [sameStep, cut]) resumes
  rw [sameStep] at steady
  exact Step.readsBack_of_steady marked spelled cut steady (uncontrolled_punctuation mark)

/-- The closing parenthesis of an interpolation is isolated. -/
theorem readsBack_closing (kind : (punctuationStep depths ')' cs).kind = .delimiter) :
    (punctuationStep depths ')' cs).ReadsBack (.code depths) other := by
  have cut := whole_punctuationStep depths ')' cs
  have marked : markedText ⟨(punctuationStep depths ')' cs).kind,
      (punctuationStep depths ')' cs).cut.taken⟩ = isolate leftIsolate [')'] := by
    simp [cut, kind, markedText, Markup.localizedDelimiter]
  have spelled : Lexeme.respelled ⟨(punctuationStep depths ')' cs).kind,
      (punctuationStep depths ')' cs).cut.taken⟩ =
        [⟨(punctuationStep depths ')' cs).kind, [')']⟩] := by
    simp [cut, kind, Lexeme.respelled, Markup.localizedDelimiter]
  have stepped : step true (.code depths) ')' (popIsolate :: other) =
      (punctuationStep depths ')' cs).leaving (popIsolate :: other) :=
    step_punctuation (by decide) (by decide) cs _
  rw [Step.leaving, cut] at stepped
  exact Step.readsBack_of_isolated marked (by decide) spelled stepped .closed (by decide)

theorem readsBack_punctuation (form : Form.ofStart c cs = .punctuation)
    (resumes : Resumes MarkedParting cs other) :
    (punctuationStep depths c cs).ReadsBack (.code depths) other := by
  have mark : isPunctuation c = true := by
    have begins := Form.begins c cs
    rwa [form] at begins
  rcases punctuationStep_shaped depths c cs with kind | ⟨kind, rfl⟩
  · cases bracket : Markup.isOpeningBracket [c] with
    | true => exact readsBack_bracket mark kind bracket
    | false => exact readsBack_mark mark form kind bracket resumes
  · exact readsBack_closing kind

/-! ### Literals -/

/-- An interpolation that opens in the source is isolated in the localized text. -/
def OpenerIsolated (rest other : Text) : Prop :=
  Literal.opensHere true rest = true →
    ∃ o tail, other = o :: tail ∧ isControl o = true ∧ Literal.opensHere true tail = true

/-- The fragment of a literal, after the text that stands before it in the same lexeme. -/
theorem readsBack_fragment {input front : Text} {d : Char} {ds : Text}
    (resumes : Resumes MarkedParting (Literal.fragment true input).cut.rest other)
    (opener : (Literal.fragment true input).closed = false →
      OpenerIsolated (Literal.fragment true input).cut.rest other)
    (text : front ++ (Literal.fragment true input).cut.taken = d :: ds)
    (stepped : ∀ cut, Literal.fragment true
        ((Literal.fragment true input).cut.taken ++ popIsolate :: other) =
          ⟨cut, (Literal.fragment true input).closed⟩ →
      step true context d (ds ++ popIsolate :: other) =
        ⟨.stringLiteral, cut.after front, contextAfter (Literal.fragment true input) depths⟩)
    (plain : Uncontrolled (d :: ds)) :
    Step.ReadsBack ⟨.stringLiteral, (Literal.fragment true input).cut.after front,
      contextAfter (Literal.fragment true input) depths⟩ context other := by
  obtain ⟨cut, fragmentCut, absorbs⟩ :
      ∃ cut, Literal.fragment true
          ((Literal.fragment true input).cut.taken ++ popIsolate :: other) =
            ⟨cut, (Literal.fragment true input).closed⟩ ∧
        Absorbs true (contextAfter (Literal.fragment true input) depths) cut
          (Literal.fragment true input).cut.taken other :=
    fragment_absorbs innerParting_marked resumes fun opens isOpen => opener isOpen opens
  have absorbsText := absorbs.after front
  rw [text] at absorbsText
  have taken : ((Literal.fragment true input).cut.after front).taken = d :: ds := text
  have marked : markedText ⟨.stringLiteral, ((Literal.fragment true input).cut.after front).taken⟩ =
      isolate firstStrongIsolate (d :: ds) := by
    rw [taken]
    rfl
  have spelled : Lexeme.respelled
      ⟨.stringLiteral, ((Literal.fragment true input).cut.after front).taken⟩ =
        [⟨.stringLiteral, d :: ds⟩] := by
    rw [taken]
    rfl
  exact Step.readsBack_of_isolated marked (by decide) spelled (stepped cut fragmentCut) absorbsText
    plain

/-- A control behind a lexeme does not change its form. -/
theorem Form.ofStart_before_control (split : taken ++ rest = cs)
    (noVerbatim : ∀ n, Form.ofStart c cs ≠ .verbatim n)
    (noLine : Form.ofStart c cs ≠ .lineComment) (noBlock : Form.ofStart c cs ≠ .blockComment) :
    Form.ofStart c (taken ++ popIsolate :: other) = Form.ofStart c cs := by
  subst split
  have parted : Resumes ControlParting rest (popIsolate :: other) :=
    .parted ⟨popIsolate, other, rfl, isControl_popIsolate⟩
  exact Form.ofStart_resumes inertParting_control (parted.append taken) noVerbatim noLine noBlock

/-- The first fragment of a literal, with its opening quote. -/
theorem readsBack_literal (form : Form.ofStart '"' cs = .literal)
    (plain : Uncontrolled ('"' :: (Literal.fragment true cs).cut.taken))
    (resumes : Resumes MarkedParting (Literal.fragment true cs).cut.rest other)
    (opener : (Literal.fragment true cs).closed = false →
      OpenerIsolated (Literal.fragment true cs).cut.rest other) :
    Step.ReadsBack ⟨.stringLiteral, (Literal.fragment true cs).cut.after ['"'],
      contextAfter (Literal.fragment true cs) depths⟩ (.code depths) other := by
  have formOther : Form.ofStart '"'
      ((Literal.fragment true cs).cut.taken ++ popIsolate :: other) = .literal := by
    rw [Form.ofStart_before_control (Literal.whole_fragment true cs)] <;> simp [form]
  have text : ['"'] ++ (Literal.fragment true cs).cut.taken =
      '"' :: (Literal.fragment true cs).cut.taken := rfl
  refine readsBack_fragment resumes opener text ?_ plain
  intro cut inside
  simp only [step, codeStep, formOther, inside]
  rfl

theorem readsBack_verbatim {pounds : Nat} (form : Form.ofStart c cs = .verbatim pounds)
    (plain : Uncontrolled (Literal.verbatim pounds (c :: cs)).taken)
    (resumes : Resumes MarkedParting (Literal.verbatim pounds (c :: cs)).rest other) :
    Step.ReadsBack ⟨.stringLiteral, Literal.verbatim pounds (c :: cs), .code depths⟩
      (.code depths) other := by
  have begins := Form.begins c cs
  rw [form] at begins
  have absorbs : Absorbs true (.code depths)
      (Literal.verbatim pounds
        ((Literal.verbatim pounds (c :: cs)).taken ++ popIsolate :: other))
      (Literal.verbatim pounds (c :: cs)).taken other :=
    verbatim_absorbs innerParting_marked begins resumes
  have opensOther := Literal.OpensVerbatim.taken begins (popIsolate :: other)
  obtain ⟨taken, rest, -, cut⟩ : ∃ taken rest, cs = taken ++ rest ∧
      Literal.verbatim pounds (c :: cs) = ⟨c :: taken, rest⟩ := by
    have cut := codeStep_cut_eq true depths c cs
    simpa only [codeStep, form] using cut
  rw [cut] at absorbs opensOther plain ⊢
  have formOther : Form.ofStart c (taken ++ popIsolate :: other) = .verbatim pounds :=
    Form.ofStart_verbatim opensOther
  have stepped : step true (.code depths) c (taken ++ popIsolate :: other) =
      ⟨.stringLiteral, Literal.verbatim pounds (c :: taken ++ popIsolate :: other),
        .code depths⟩ := by
    simp only [step, codeStep, formOther]
    rfl
  have marked : markedText ⟨.stringLiteral, c :: taken⟩ = isolate firstStrongIsolate (c :: taken) :=
    rfl
  exact Step.readsBack_of_isolated marked (by decide) rfl stepped absorbs plain

/-! ### Names and operators -/

theorem readsBack_escapedName (form : Form.ofStart backtick cs = .escapedName)
    (plain : Uncontrolled (backtick :: (escapedNameTail cs).taken))
    (resumes : Resumes MarkedParting (escapedNameTail cs).rest other) :
    Step.ReadsBack ⟨.identifier, (escapedNameTail cs).after [backtick], .code depths⟩
      (.code depths) other := by
  have formOther : Form.ofStart backtick ((escapedNameTail cs).taken ++ popIsolate :: other) =
      .escapedName := by
    rw [Form.ofStart_before_control (whole_escapedNameTail cs)] <;> simp [form]
  have absorbs : Absorbs true (.code depths)
      ((escapedNameTail ((escapedNameTail cs).taken ++ popIsolate :: other)).after [backtick])
      (backtick :: (escapedNameTail cs).taken) other :=
    (escapedNameTail_absorbs innerParting_marked resumes).after [backtick]
  have stepped : step true (.code depths) backtick
      ((escapedNameTail cs).taken ++ popIsolate :: other) =
      ⟨.identifier,
        (escapedNameTail ((escapedNameTail cs).taken ++ popIsolate :: other)).after [backtick],
        .code depths⟩ := by
    simp only [step, codeStep, formOther]
  have text : ((escapedNameTail cs).after [backtick]).taken =
      backtick :: (escapedNameTail cs).taken := rfl
  obtain ⟨opener, control, marked⟩ :=
    markedText_word ⟨.identifier, backtick :: (escapedNameTail cs).taken⟩ rfl
  have spelled : Lexeme.respelled ⟨.identifier, backtick :: (escapedNameTail cs).taken⟩ =
      [⟨.identifier, backtick :: (escapedNameTail cs).taken⟩] := by simp [Lexeme.respelled]
  rw [← text] at marked spelled
  exact Step.readsBack_of_isolated marked control spelled stepped absorbs plain

theorem ne_backslash_of_operator {d : Char} (operator : isOperatorChar d = true) : d ≠ '\\' := by
  rintro rfl
  exact absurd operator (by decide)

/-- An operator character with its slash turned round is no forward slash. -/
theorem swapSlash_operator {d : Char} (operator : isOperatorChar d = true) :
    Markup.swapSlash d = '\\' ∨
      isOperatorChar (Markup.swapSlash d) = true ∧ Markup.swapSlash d ≠ '/' := by
  by_cases slash : d = '/'
  · exact .inl (by simp [Markup.swapSlash, slash])
  · have noBackslash := ne_backslash_of_operator operator
    have same : Markup.swapSlash d = d := by simp [Markup.swapSlash, slash, noBackslash]
    exact .inr ⟨by rw [same]; exact operator, by rw [same]; exact slash⟩

/-- An operator, with its slashes turned round. -/
theorem readsBack_operator {cut : Cut} (operators : ∀ c ∈ cut.taken, isOperatorChar c = true) :
    Step.ReadsBack ⟨.operator, cut, .code depths⟩ (.code depths) other := by
  have marked : markedText ⟨.operator, cut.taken⟩ =
      isolate leftIsolate (Markup.swapSlashes cut.taken) := rfl
  rw [Step.ReadsBack, marked, isolate_append, bareLexemes_control (by decide)]
  apply bareLexemes_operators
  intro c member
  obtain ⟨d, inText, rfl⟩ := List.mem_map.1 member
  exact swapSlash_operator (operators d inText)

/-- A name that is a word is read as that word, of the word's own kind. -/
theorem respelled_of_word {lexeme : Lexeme} (name : Scope.full.affects lexeme.kind = true)
    (word : isWord lexeme.text = true) :
    lexeme.respelled = [⟨wordKind lexeme.text, lexeme.text⟩] := by
  have noBacktick := isWord_head?_ne word
  rcases affects_full_iff.1 name with keyword | identifier
  · simp [Lexeme.respelled, keyword, noBacktick]
  · simp [Lexeme.respelled, identifier, noBacktick]

/-- A name of either kind that is a word. -/
theorem bareLexemes_name {lexeme : Lexeme} (name : Scope.full.affects lexeme.kind = true)
    (word : isWord lexeme.text = true) :
    bareLexemes (lexemesFrom true (.code depths) (markedText lexeme ++ other)) =
      lexeme.respelled ++ bareLexemes (lexemesFrom true (.code depths) other) := by
  obtain ⟨opener, control, marked⟩ := markedText_word lexeme name
  rw [marked, respelled_of_word name word]
  exact bareLexemes_word control word

/-! ### Any lexeme -/

/-- Comments, blanks, numbers and stray characters stand in localized text as they are. -/
theorem readsBack_plain (sameStep : ∀ more, step true context c more = codeStep true depths c more)
    (verbatim : (Form.ofStart c cs).isVerbatim = true)
    (marked : ∀ text, markedText ⟨(codeStep true depths c cs).kind, text⟩ = text)
    (spelled : ∀ text, Lexeme.respelled ⟨(codeStep true depths c cs).kind, text⟩ =
      [⟨(codeStep true depths c cs).kind, text⟩])
    (plain : Uncontrolled (codeStep true depths c cs).cut.taken)
    (resumes : Resumes MarkedParting (codeStep true depths c cs).cut.rest other) :
    (codeStep true depths c cs).ReadsBack context other := by
  obtain ⟨taken, rest, rfl, cut⟩ := codeStep_cut_eq true depths c cs
  rw [cut] at plain resumes
  have steady := codeStep_steady inertParting_marked innerParting_marked verbatim cut resumes
  rw [← sameStep] at steady
  exact Step.readsBack_of_steady (marked _) (spelled _) cut steady plain

/-- One lexeme of code. -/
theorem readsBack_codeStep (plain : Uncontrolled (codeStep true depths c cs).cut.taken)
    (noBackslash : (⟨(codeStep true depths c cs).kind, (codeStep true depths c cs).cut.taken⟩ :
      Lexeme) ≠ ⟨.operator, ['\\']⟩)
    (resumes : Resumes MarkedParting (codeStep true depths c cs).cut.rest other)
    (opener : (codeStep true depths c cs).context = .string depths →
      OpenerIsolated (codeStep true depths c cs).cut.rest other) :
    (codeStep true depths c cs).ReadsBack (.code depths) other := by
  have begins := Form.begins c cs
  have shaped := codeStep_shaped true depths c cs
  cases form : Form.ofStart c cs with
  | literal =>
    rw [form] at begins
    obtain ⟨rfl, -⟩ := begins
    simp only [codeStep, form] at plain resumes opener ⊢
    exact readsBack_literal form plain resumes fun isOpen => opener (by simp [contextAfter, isOpen])
  | verbatim pounds =>
    simp only [codeStep, form] at plain resumes ⊢
    exact readsBack_verbatim form plain resumes
  | backslash =>
    rw [form] at begins
    obtain rfl : c = '\\' := begins
    simp [codeStep, form] at noBackslash
  | operator =>
    have operators := (shaped.operator (by simp [codeStep, form])).resolve_left fun alone =>
      noBackslash (by rw [← alone]; simp [codeStep, form])
    simp only [codeStep, form] at operators ⊢
    exact readsBack_operator operators
  | escapedName =>
    rw [form] at begins
    obtain rfl : c = backtick := begins
    simp only [codeStep, form] at plain resumes ⊢
    exact readsBack_escapedName form plain resumes
  | word =>
    rw [form] at begins
    have word := isWord_wordCut begins cs
    simp only [codeStep, form]
    exact bareLexemes_name (affects_full_wordKind _) word
  | punctuation =>
    simp only [codeStep, form, whole_punctuationStep] at resumes ⊢
    exact readsBack_punctuation form resumes
  | lineComment | blockComment | blank | number | stray =>
    refine readsBack_plain (fun _ => rfl) ?_ ?_ ?_ plain resumes
    · simp [form, Form.isVerbatim]
    · simp [codeStep, form, markedText]
    · simp [codeStep, form, Lexeme.respelled]

/-- The opener of an interpolation, written with the other slash. -/
theorem readsBack_opener (tail : Text) :
    Step.ReadsBack ⟨.delimiter, ⟨['\\', '('], tail⟩, .code (0 :: depths)⟩ (.string depths)
      other := by
  have marked : markedText ⟨.delimiter, ['\\', '(']⟩ = isolate leftIsolate ['/', '('] := rfl
  have stepped : step true (.string depths) '/' ('(' :: popIsolate :: other) =
      ⟨.delimiter, ⟨['/', '('], popIsolate :: other⟩, .code (0 :: depths)⟩ := rfl
  exact Step.readsBack_of_isolated marked (by decide) rfl stepped .closed (by decide)

/-- One lexeme of a plain literal. -/
theorem readsBack_stringStep (plain : Uncontrolled (stringStep true depths c cs).cut.taken)
    (noSlash : (⟨(stringStep true depths c cs).kind, (stringStep true depths c cs).cut.taken⟩ :
      Lexeme) ≠ ⟨.delimiter, ['/', '(']⟩)
    (resumes : Resumes MarkedParting (stringStep true depths c cs).cut.rest other)
    (opener : (stringStep true depths c cs).context = .string depths →
      OpenerIsolated (stringStep true depths c cs).cut.rest other) :
    (stringStep true depths c cs).ReadsBack (.string depths) other := by
  by_cases opens : Literal.opensHere true (c :: cs) = true
  · obtain ⟨slash, tail, rfl⟩ := Literal.opener_eq opens
    simp only [stringStep, opens, if_true] at noSlash ⊢
    obtain rfl : c = '\\' := by
      refine slash.resolve_right ?_
      rintro ⟨-, rfl⟩
      exact noSlash rfl
    exact readsBack_opener tail
  by_cases newline : isNewline c = true
  · have form := Form.ofStart_newline newline cs
    rw [stringStep_newline newline] at plain resumes ⊢
    refine readsBack_plain (stringStep_newline newline) ?_ ?_ ?_ plain resumes
    · simp [form, Form.isVerbatim]
    · simp [codeStep, form, markedText]
    · simp [codeStep, form, Lexeme.respelled]
  · have inside : stringStep true depths c cs =
        ⟨.stringLiteral, (Literal.fragment true (c :: cs)).cut.after [],
          contextAfter (Literal.fragment true (c :: cs)) depths⟩ := by
      simp only [stringStep, opens, newline, if_false, Bool.false_eq_true]
      rfl
    obtain ⟨taken, first, tail⟩ := step_taken_eq true (.string depths) c cs
    have noOpener : Literal.opensHere true (c :: (taken ++ popIsolate :: other)) = false := by
      cases taken with
      | nil => exact Literal.opensHere_eq_false_of_head (by simp [popIsolate])
      | cons d ds =>
        have sameHead : (d :: ds ++ popIsolate :: other).head? = cs.head? := by rw [tail]; rfl
        rw [Literal.opensHere_congr sameHead]
        simpa using opens
    have text : [] ++ (Literal.fragment true (c :: cs)).cut.taken = c :: taken := by
      rw [← first, step, inside]
      rfl
    have first : (Literal.fragment true (c :: cs)).cut.taken = c :: taken := text
    rw [inside] at plain resumes opener ⊢
    refine readsBack_fragment resumes (fun isOpen => opener ?_) text ?_ (first ▸ plain)
    · simp [contextAfter, isOpen]
    · intro cut fragmentCut
      rw [first, List.cons_append] at fragmentCut
      simp only [step, stringStep, noOpener, newline, fragmentCut, if_false, Bool.false_eq_true]
      rfl

/-! ## A whole text -/

/-- The localized text of what follows in a literal isolates its opener. -/
theorem openerIsolated_render {told : List Lexeme}
    (rephrased : List.Forall₂ Rephrases (lexemesFrom true (.string depths) rest) told) :
    OpenerIsolated rest (Markup.render .localized told) := by
  intro opens
  cases rest with
  | nil => simp [Literal.opensHere] at opens
  | cons c cs =>
    obtain ⟨slash, tail, rfl⟩ := Literal.opener_eq opens
    rw [lexemesFrom_cons] at rephrased
    simp only [step, stringStep, opens, if_true] at rephrased
    obtain ⟨first, told, rephrases, -, rfl⟩ := List.forall₂_cons_left_iff.1 rephrased
    obtain rfl : first = ⟨.delimiter, [c, '(']⟩ := by
      rcases rephrases with same | ⟨name, -⟩
      · exact same
      · simp [Scope.affects] at name
    have marked : Markup.lexemeText .localized ⟨.delimiter, [c, '(']⟩ =
        [leftIsolate, '/', '(', popIsolate] := by
      rcases slash with rfl | ⟨-, rfl⟩ <;> rfl
    rw [Markup.render, List.flatMap_cons, marked]
    exact ⟨leftIsolate, _, rfl, by decide, rfl⟩

/-- Reading localized text gives its lexemes back. -/
theorem bareLexemes_render {context : Context} {input : Text} {told : List Lexeme}
    (plain : Uncontrolled input)
    (noBackslash : (⟨.operator, ['\\']⟩ : Lexeme) ∉ lexemesFrom true context input)
    (noSlash : (⟨.delimiter, ['/', '(']⟩ : Lexeme) ∉ lexemesFrom true context input)
    (rephrased : List.Forall₂ Rephrases (lexemesFrom true context input) told) :
    bareLexemes (lexemesFrom true context (Markup.render .localized told)) =
      told.flatMap Lexeme.respelled := by
  -- one step of the scan of the source is one lexeme of the localized text
  fun_induction lexemesFrom true context input generalizing told with
  | case1 =>
    obtain rfl := List.forall₂_nil_left_iff.1 rephrased
    simp [Markup.render, bareLexemes]
  | @case2 context c cs next ih =>
    obtain ⟨first, told, rephrases, others, rfl⟩ := List.forall₂_cons_left_iff.1 rephrased
    have whole : next.cut.taken ++ next.cut.rest = c :: cs := whole_step true context c cs
    have plainTaken : Uncontrolled next.cut.taken := fun d member =>
      plain d (by rw [← whole]; exact List.mem_append_left _ member)
    have plainRest : Uncontrolled next.cut.rest := fun d member =>
      plain d (by rw [← whole]; exact List.mem_append_right _ member)
    obtain ⟨otherOperator, noBackslash⟩ := List.ne_and_not_mem_of_not_mem_cons noBackslash
    obtain ⟨otherDelimiter, noSlash⟩ := List.ne_and_not_mem_of_not_mem_cons noSlash
    have rest := ih plainRest noBackslash noSlash others
    have resumes : Resumes MarkedParting next.cut.rest (Markup.render .localized told) := by
      have resumes := resumes_render (fun lexeme member => shaped_of_mem member) others
      rwa [concat_lexemesFrom] at resumes
    rw [render_localized_cons, List.flatMap_cons, ← rest]
    rcases rephrases with rfl | ⟨name, sameKind, word⟩
    · have opener (depths : List Nat) (inside : next.context = .string depths) :
          OpenerIsolated next.cut.rest (Markup.render .localized told) := by
        rw [inside] at others
        exact openerIsolated_render others
      cases context with
      | code depths =>
        exact readsBack_codeStep plainTaken otherOperator.symm resumes (opener depths)
      | string depths =>
        exact readsBack_stringStep plainTaken otherDelimiter.symm resumes (opener depths)
    · obtain ⟨depths, rfl, after, -⟩ := step_of_name name
      have after : next.context = .code depths := after
      rw [after]
      exact bareLexemes_name (sameKind ▸ name) word

end Diglot
