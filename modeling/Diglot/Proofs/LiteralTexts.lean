import Diglot.Proofs.StrippedMarkup

/-!
# String literals through localized text

Localized text writes what stands in string literals as it is, and what comes back has the same
literals (`literal_texts_trip`), even where other words come back than stood in the source. Such a
word may grow together with a number before it, and so the lexemes around the literals need not be
the same. That does not matter: characters that belong to no literal, no comment, no escaped name
and no parenthesis are idle, and leave no trace in the list of literals (`literalsFrom_idle`).

The source must not have an opener that only localized text has. A slash and a parenthesis in a
literal are text in the source, but an interpolation in localized text
(`literal_texts_trip_slash`).
-/

set_option autoImplicit false

namespace Diglot

open Text (isBlank isDigit isNewline)

variable {localized : Bool} {context : Context} {depths : List Nat} {c : Char} {cs input : Text}

/-- The texts of the string literals among tokens, fragment by fragment. -/
def literalTexts (tokens : List Token) : List Text :=
  (tokens.filter fun token => token.lexeme.kind = .stringLiteral).map fun token => token.lexeme.text

/-- The texts of the string literals of a text that is scanned from a context on. -/
def literalsFrom (localized : Bool) (context : Context) (input : Text) : List Text :=
  ((lexemesFrom localized context input).filter fun lexeme => lexeme.kind = .stringLiteral).map
    Lexeme.text

theorem literalTexts_scan (localized : Bool) (source : Text) :
    literalTexts (scan localized source) = literalsFrom localized .top source := by
  have lexemes_eq : lexemesFrom localized .top source =
      (scan localized source).map Token.lexeme := (map_lexeme_scan localized source).symm
  rw [literalsFrom, lexemes_eq, List.filter_map, List.map_map]
  rfl

theorem literalsFrom_cons_of_eq (literal : (step localized context c cs).kind = .stringLiteral) :
    literalsFrom localized context (c :: cs) =
      (step localized context c cs).cut.taken ::
        literalsFrom localized (step localized context c cs).context
          (step localized context c cs).cut.rest := by
  rw [literalsFrom, lexemesFrom_cons, List.filter_cons_of_pos (by simpa using literal)]
  rfl

/-- A lexeme that is no literal does not show. -/
theorem literalsFrom_cons_of_ne (other : (step localized context c cs).kind ≠ .stringLiteral) :
    literalsFrom localized context (c :: cs) =
      literalsFrom localized (step localized context c cs).context
        (step localized context c cs).cut.rest := by
  rw [literalsFrom, lexemesFrom_cons, List.filter_cons_of_neg (by simpa using other)]
  rfl

/-- Steps that take the same lexeme keep texts with the same literals alike. -/
theorem literalsFrom_cons_congr {other ds : Text}
    (steady : step localized context c ds = (step localized context c cs).leaving other)
    (same : literalsFrom localized (step localized context c cs).context other =
      literalsFrom localized (step localized context c cs).context
        (step localized context c cs).cut.rest) :
    literalsFrom localized context (c :: ds) = literalsFrom localized context (c :: cs) := by
  by_cases literal : (step localized context c cs).kind = .stringLiteral
  · have literalOther : (step localized context c ds).kind = .stringLiteral := by
      rw [steady]
      exact literal
    rw [literalsFrom_cons_of_eq literalOther, literalsFrom_cons_of_eq literal, steady]
    exact congrArg (_ :: ·) same
  · have noLiteral : (step localized context c ds).kind ≠ .stringLiteral := by
      rw [steady]
      exact literal
    rw [literalsFrom_cons_of_ne noLiteral, literalsFrom_cons_of_ne literal, steady]
    exact same

/-! ## Idle characters -/

/-- The characters that literals, comments, escaped names and parentheses begin with. -/
def loudChars : List Char :=
  ['"', '#', '/', '(', ')', backtick]

/-- Whether a character begins no literal, comment or escaped name and is no parenthesis. -/
def isIdle (c : Char) : Bool :=
  c ∉ loudChars

/-- A class without loud characters has idle ones only. -/
theorem isIdle_of {p : Char → Bool} (quiet : ∀ d ∈ loudChars, p d = false) (member : p c = true) :
    isIdle c = true := by
  rw [isIdle, decide_eq_true_eq]
  intro loud
  simp [quiet c loud] at member

theorem isIdle_of_mem_word {word : Text} (isWord : isWord word = true) :
    ∀ d ∈ word, isIdle d = true := by
  cases word with
  | nil => simp
  | cons c cs =>
    obtain ⟨starts, goOn⟩ := isWord_cons.1 isWord
    intro d member
    rcases List.mem_cons.1 member with rfl | member
    · exact isIdle_of (forall_mem_of_all (by decide)) starts
    · exact isIdle_of (forall_mem_of_all (by decide +kernel)) (goOn d member)

/-! ### What number literals take -/

/-- Nothing is taken but characters of a class. -/
def Cut.Takes (p : Char → Bool) (cut : Cut) : Prop :=
  ∀ c ∈ cut.taken, p c = true

theorem Cut.takes_nothing (p : Char → Bool) (input : Text) : (Cut.nothing input).Takes p := by
  simp [Takes, nothing]

theorem Cut.Takes.after {p : Char → Bool} {cut : Cut} (takes : cut.Takes p)
    (member : p c = true) : (cut.after [c]).Takes p := by
  intro d taken
  rcases List.mem_cons.1 (by simpa [Cut.after] using taken) with rfl | taken
  · exact member
  · exact takes d taken

theorem Cut.Takes.andThen {p : Char → Bool} {cut : Cut} {next : Text → Cut} (takes : cut.Takes p)
    (takesNext : ∀ input, (next input).Takes p) : (cut.andThen next).Takes p := by
  intro d taken
  rcases List.mem_append.1 (by simpa [Cut.andThen, Cut.after] using taken) with taken | taken
  · exact takes d taken
  · exact takesNext _ d taken

theorem Cut.takes_span {p q : Char → Bool} (included : ∀ c, q c = true → p c = true)
    (input : Text) : (Cut.span q input).Takes p := fun d taken =>
  included d ((Cut.span_eq_iff.1 (Cut.eq_of_whole (Cut.whole_span q) input)).1 d taken)

namespace Number

theorem takes_digits {digit : Char → Bool} (part : Constituent digit) (input : Text) :
    (digits digit input).Takes isPart :=
  Cut.takes_span part.isDigits input

theorem takes_fraction {digit : Char → Bool} (part : Constituent digit) (input : Text) :
    (fraction digit input).Takes isPart := by
  rw [fraction.eq_def]
  split
  · split
    · exact (takes_digits part _).after (by decide)
    · exact Cut.takes_nothing _ _
  · exact Cut.takes_nothing _ _

theorem takes_sign (input : Text) : (sign input).Takes isPart := by
  cases input with
  | nil => exact Cut.takes_nothing _ _
  | cons c cs =>
    rw [sign]
    split
    · next signed => exact (Cut.takes_nothing _ cs).after (constituent_isSign c signed)
    · exact Cut.takes_nothing _ _

theorem takes_exponent {mark : Char → Bool} (part : Constituent mark) (input : Text) :
    (exponent mark input).Takes isPart := by
  cases input with
  | nil => exact Cut.takes_nothing _ _
  | cons m cs =>
    rcases exponent_cons mark m cs with ⟨_, _, _, marked, _, cut⟩ | ⟨-, cut⟩
    · rw [cut]
      exact ((takes_sign cs).andThen (takes_digits constituent_isDigit)).after (part m marked)
    · rw [cut]
      exact Cut.takes_nothing _ _

theorem takes_real {digit mark : Char → Bool} (digitPart : Constituent digit)
    (markPart : Constituent mark) (input : Text) : (real digit mark input).Takes isPart :=
  ((takes_digits digitPart input).andThen (takes_fraction digitPart)).andThen
    (takes_exponent markPart)

/-- A number literal goes on with constituents only. -/
theorem takes_tail (first : Char) (input : Text) : (tail first input).Takes isPart := by
  cases input with
  | nil => exact Cut.takes_nothing _ _
  | cons c cs =>
    rcases tail_cons_cases first c with ⟨-, part, cut⟩ | ⟨-, ⟨part, digit, hex, cut⟩ | decimal⟩
    · rw [cut]
      exact (takes_real constituent_isHexDigit constituent_isBinaryMark cs).after part
    · rw [cut]
      exact (takes_digits (constituent_of_isHexDigit hex) cs).after part
    · rw [decimal]
      exact takes_real constituent_isDigit constituent_isDecimalMark _

end Number

theorem isIdle_of_isPart (part : Number.isPart c = true) : isIdle c = true :=
  isIdle_of (forall_mem_of_all (by decide)) part

/-! ### They leave no trace -/

/-- The next operator takes what an operator before it would have taken. -/
theorem literalsFrom_operatorTail (depths : List Nat) (cs : Text) :
    literalsFrom localized (.code depths) (operatorTail cs).rest =
      literalsFrom localized (.code depths) cs := by
  cases cs with
  | nil => rfl
  | cons c cs =>
    rw [operatorTail]
    split
    · next goesOn =>
      obtain ⟨operator, noComment⟩ := Bool.and_eq_true_iff.1 goesOn
      have form : Form.ofStart c cs = .operator :=
        Form.ofStart_operator operator (by simpa using noComment)
      rw [literalsFrom_cons_of_ne] <;> simp [step, codeStep, form, Cut.after]
    · rfl

def Form.isLoud : Form → Bool
  | .literal | .verbatim _ | .lineComment | .blockComment | .escapedName => true
  | .blank | .number | .backslash | .operator | .punctuation | .word | .stray => false

theorem mem_loudChars (loud : (Form.ofStart c cs).isLoud = true) : c ∈ loudChars := by
  have begins := Form.begins c cs
  cases form : Form.ofStart c cs with
  | literal | lineComment | blockComment =>
    rw [form] at begins
    rw [begins.1]
    decide
  | verbatim pounds =>
    rw [form] at begins
    obtain ⟨tail, same, -⟩ := begins
    cases pounds with
    | zero =>
      obtain ⟨rfl, -⟩ := List.cons.inj same
      decide
    | succ n =>
      rw [List.replicate_succ, List.cons_append] at same
      obtain ⟨rfl, -⟩ := List.cons.inj same
      decide
  | escapedName =>
    rw [form] at begins
    obtain rfl : c = backtick := begins
    decide
  | blank | number | backslash | operator | punctuation | word | stray =>
    simp [form, Form.isLoud] at loud

/-- What follows an idle character in code has the same literals, if idle characters may be dropped
from it. -/
theorem literalsFrom_cons_idle
    (run : ∀ taken rest : Text, cs = taken ++ rest → (∀ d ∈ taken, isIdle d = true) →
      literalsFrom localized (.code depths) cs = literalsFrom localized (.code depths) rest)
    (idle : isIdle c = true) :
    literalsFrom localized (.code depths) (c :: cs) =
      literalsFrom localized (.code depths) cs := by
  have quiet : c ∉ loudChars := by simpa [isIdle] using idle
  have dropped (kind : Kind) {cut : Cut} (other : kind ≠ .stringLiteral) (whole : cut.whole = cs)
      (takes : cut.Takes isIdle)
      (stepped : step localized (.code depths) c cs = ⟨kind, cut.after [c], .code depths⟩) :
      literalsFrom localized (.code depths) (c :: cs) =
        literalsFrom localized (.code depths) cs := by
    rw [literalsFrom_cons_of_ne (by rw [stepped]; exact other), stepped]
    exact (run cut.taken cut.rest whole.symm takes).symm
  cases form : Form.ofStart c cs with
  | literal | verbatim | lineComment | blockComment | escapedName =>
    have loud : (Form.ofStart c cs).isLoud = true := by
      rw [form]
      rfl
    exact absurd (mem_loudChars loud) quiet
  | blank =>
    refine dropped .whitespace (by decide) (Cut.whole_span isBlank cs)
      (Cut.takes_span (fun d blank => ?_) cs) (by simp only [step, codeStep, form])
    exact isIdle_of (forall_mem_of_all (by decide)) blank
  | number =>
    exact dropped .numberLiteral (by decide) (Number.whole_tail c cs)
      (fun d taken => isIdle_of_isPart (Number.takes_tail c cs d taken))
      (by simp only [step, codeStep, form])
  | word =>
    have other : wordKind (wordCut c cs).taken ≠ .stringLiteral := by
      rcases wordKind_cases (wordCut c cs).taken with ⟨kind, -⟩ | ⟨kind, -⟩ <;> simp [kind]
    refine dropped _ other (Cut.whole_span continuesWord cs)
      (Cut.takes_span (fun d goesOn => ?_) cs) (by simp only [step, codeStep, form]; rfl)
    exact isIdle_of (forall_mem_of_all (by decide +kernel)) goesOn
  | operator =>
    rw [literalsFrom_cons_of_ne (by simp [step, codeStep, form])]
    simp only [step, codeStep, form]
    exact literalsFrom_operatorTail depths cs
  | punctuation =>
    have noOpen : c ≠ '(' := fun same => quiet (by rw [same]; decide)
    have noClose : c ≠ ')' := fun same => quiet (by rw [same]; decide)
    have stepped : step localized (.code depths) c cs =
        ⟨.punctuation, ⟨[c], cs⟩, .code depths⟩ := by
      simp only [step, codeStep, form]
      cases depths <;> simp [punctuationStep, noOpen, noClose]
    rw [literalsFrom_cons_of_ne (by simp [stepped]), stepped]
  | backslash | stray =>
    rw [literalsFrom_cons_of_ne (by simp [step, codeStep, form])]
    simp only [step, codeStep, form]

theorem literalsFrom_run_of_shorter {n : Nat}
    (single : ∀ c cs, cs.length < n → isIdle c = true →
      literalsFrom localized (.code depths) (c :: cs) =
        literalsFrom localized (.code depths) cs)
    {taken rest : Text} (short : (taken ++ rest).length ≤ n)
    (idle : ∀ d ∈ taken, isIdle d = true) :
    literalsFrom localized (.code depths) (taken ++ rest) =
      literalsFrom localized (.code depths) rest := by
  induction taken with
  | nil => rfl
  | cons c cs ih =>
    rw [List.cons_append, List.length_cons] at short
    rw [List.cons_append, single c (cs ++ rest) (by omega) (idle c (by simp))]
    exact ih (by omega) fun d member => idle d (List.mem_cons_of_mem c member)

/-- An idle character in code leaves no trace in the literals. -/
theorem literalsFrom_idle (depths : List Nat) (c : Char) (cs : Text) (idle : isIdle c = true) :
    literalsFrom localized (.code depths) (c :: cs) =
      literalsFrom localized (.code depths) cs := by
  -- the lexeme of the character may take idle characters of the shorter text with it
  induction length : cs.length using Nat.strongRecOn generalizing c cs with
  | ind n shorter =>
    refine literalsFrom_cons_idle (fun taken rest same idleTaken => ?_) idle
    subst same
    exact literalsFrom_run_of_shorter
      (fun d ds short idleHere => shorter ds.length short d ds idleHere rfl)
      (Nat.le_of_eq length) idleTaken

theorem literalsFrom_idle_append {taken : Text} (idle : ∀ d ∈ taken, isIdle d = true)
    (rest : Text) :
    literalsFrom localized (.code depths) (taken ++ rest) =
      literalsFrom localized (.code depths) rest :=
  literalsFrom_run_of_shorter (fun c cs _ => literalsFrom_idle depths c cs) (Nat.le_refl _)
    idle

/-! ## Other words in place -/

/-- A number literal is made of idle characters. -/
theorem idle_of_number (number : (step localized context c cs).kind = .numberLiteral) :
    ∀ d ∈ (step localized context c cs).cut.taken, isIdle d = true := by
  obtain ⟨depths, rfl, -, form⟩ := step_of_number number
  have begins := Form.begins c cs
  rw [form] at begins
  have first : Number.isPart c = true := Number.constituent_isDigit c begins
  simp only [step, codeStep, form]
  exact fun d taken => isIdle_of_isPart (((Number.takes_tail c cs).after first) d taken)

/-- The same literals are found in a text with other words in place. -/
theorem literalsFrom_concat {told : List Lexeme}
    (swapped : List.Forall₂ SwapsWord (lexemesFrom localized context input) told) :
    literalsFrom localized context (Lexeme.concat told) = literalsFrom localized context input := by
  fun_induction lexemesFrom localized context input generalizing told with
  | case1 =>
    obtain rfl := List.forall₂_nil_left_iff.1 swapped
    rfl
  | @case2 context c cs next ih =>
    obtain ⟨first, told, swaps, others, rfl⟩ := List.forall₂_cons_left_iff.1 swapped
    have rest := ih others
    have resumes : Resumes WordsParting next.cut.rest (Lexeme.concat told) := by
      have resumes := resumes_concat (fun _ _ => SwapsWord.parted) others
      rwa [concat_lexemesFrom] at resumes
    -- a number, or a word, is dropped from both texts
    have dropped (depths : List Nat) {text : Text} (code : context = .code depths)
        (after : next.context = .code depths) (other : next.kind ≠ .stringLiteral)
        (idle : ∀ d ∈ text, isIdle d = true) :
        literalsFrom localized context (text ++ Lexeme.concat told) =
          literalsFrom localized context (c :: cs) := by
      rw [literalsFrom_cons_of_ne other]
      change _ = literalsFrom localized next.context next.cut.rest
      rw [← rest, after, code]
      exact literalsFrom_idle_append idle _
    rw [Lexeme.concat_cons]
    rcases swaps with rfl | ⟨name, -, -, toldWord⟩
    · by_cases number : next.kind = .numberLiteral
      · obtain ⟨depths, code, after, -⟩ := step_of_number number
        exact dropped depths code after (by simp [number]) (idle_of_number number)
      · obtain ⟨taken, start, steady⟩ := step_steady_rest wordParting_words
          (fun isNumber => absurd isNumber number) resumes
        have start : next.cut.taken = c :: taken := start
        rw [start, List.cons_append]
        exact literalsFrom_cons_congr steady rest
    · obtain ⟨depths, code, after, -⟩ := step_of_name name
      refine dropped depths code after ?_ (isIdle_of_mem_word toldWord)
      rcases affects_full_iff.1 name with kind | kind <;> simp [show next.kind = _ from kind]

/-! ## Through localized text -/

variable {lexicon : Lexicon} {lexeme : Lexeme} {source : Text}

/-- What comes back for a lexeme that was written into localized text. -/
def Lexeme.returned (lexicon : Lexicon) (lexeme : Lexeme) : Lexeme :=
  ⟨lexeme.kind, (lexeme.reword lexicon .toLocalized .full).respelled.flatMap
    (Lexeme.reading lexicon .full)⟩

/-- A word comes back for a word. -/
theorem Lexicon.Foreign.swapsWord (foreign : lexicon.Foreign) (carriable : Carriable source)
    (member : lexeme ∈ lexemes false source) : SwapsWord lexeme (lexeme.returned lexicon) := by
  have shaped : lexeme.Shaped false := shaped_of_mem member
  have plain := carriable.lexeme_uncontrolled member
  have same (text : (lexeme.returned lexicon).text = lexeme.text) :
      SwapsWord lexeme (lexeme.returned lexicon) := .inl (congrArg (Lexeme.mk lexeme.kind) text)
  have known {word primary : Text} (name : Scope.full.affects lexeme.kind = true)
      (isWord : isWord word = true)
      (back : lexicon.counterpart? .toPrimary word = some primary) :
      (Lexeme.respelled ⟨lexeme.kind, word⟩).flatMap (Lexeme.reading lexicon .full) = primary :=
    flatMap_reading_of_known name isWord (affects_full_wordKind word) back
      (isControl_eq_false_of_mem_word (foreign.of_toPrimary back).primaryWord)
  cases name : Scope.full.affects lexeme.kind with
  | false =>
    apply same
    rw [Lexeme.returned, Lexeme.reword_eq_self (by simp [name])]
    exact flatMap_reading_respelled shaped plain (carriable.lexeme_ne member) name
  | true =>
    cases found : lexicon.counterpart? .toLocalized lexeme.text with
    | some word =>
      obtain ⟨isWord, -, primaryWord, noDollar⟩ := foreign.of_toLocalized found
      have back : lexicon.counterpart? .toPrimary word ≠ none := fun none =>
        Lexicon.toPrimary_eq_none_iff.1 none (Lexicon.mem_localizedSymbols found)
      obtain ⟨primary, back⟩ := Option.ne_none_iff_exists'.1 back
      have reworded : lexeme.reword lexicon .toLocalized .full = ⟨lexeme.kind, word⟩ := by
        simp [Lexeme.reword, name, found]
      have text : (lexeme.returned lexicon).text = primary := by
        rw [Lexeme.returned, reworded]
        exact known name isWord back
      exact .inr ⟨name, primaryWord, noDollar, text ▸ (foreign.of_toPrimary back).primaryWord⟩
    | none =>
      have kept : lexeme.reword lexicon .toLocalized .full = lexeme :=
        Lexeme.reword_eq_self fun _ => found
      cases back : lexicon.counterpart? .toPrimary lexeme.text with
      | none =>
        apply same
        rw [Lexeme.returned, kept]
        exact flatMap_reading_of_unknown shaped name plain fun _ => back
      | some primary =>
        obtain ⟨isWord, starts, primaryWord, -⟩ := foreign.of_toPrimary back
        have text : (lexeme.returned lexicon).text = primary := by
          rw [Lexeme.returned, kept]
          exact known name isWord back
        exact .inr ⟨name, isWord, head?_ne_of_startsForeign starts, text ▸ primaryWord⟩

/-- The text that comes back, lexeme by lexeme. -/
theorem Lexicon.Foreign.trip_eq (foreign : lexicon.Foreign) (carriable : Carriable source) :
    convert lexicon .localized .primary (convert lexicon .primary .localized source) =
      Lexeme.concat ((lexemes false source).map (Lexeme.returned lexicon)) := by
  rw [convert_toLocalized (by decide)]
  calc convert lexicon .localized .primary (Markup.render .localized
        ((lexemes false source).map (Lexeme.reword lexicon .toLocalized .full)))
      = (lexemes false source).flatMap fun lexeme => (lexeme.returned lexicon).text :=
        convert_render carriable (by decide) (foreign.escapedUnknown _)
          fun lexeme _ => (foreign.localizes lexeme).rephrases
    _ = Lexeme.concat ((lexemes false source).map (Lexeme.returned lexicon)) :=
        (List.flatMap_map _ _ _).symm

theorem Lexicon.Foreign.literalTexts_trip (foreign : lexicon.Foreign)
    (carriable : Carriable source) :
    literalTexts (scan false
        (convert lexicon .localized .primary (convert lexicon .primary .localized source))) =
      literalTexts (scan false source) := by
  rw [foreign.trip_eq carriable, literalTexts_scan, literalTexts_scan]
  apply literalsFrom_concat
  rw [List.forall₂_map_right_iff, ← lexemes, List.forall₂_same]
  exact fun lexeme member => foreign.swapsWord carriable member

theorem foreign_forCompilation : (Lexicon.forCompilation .empty).Foreign :=
  ⟨rfl, by decide, by decide⟩

/-- A source that localized text can carry comes back from it with its string literals. -/
theorem literal_texts_trip (source : Text) (carriable : Carriable source) :
    let lexicon := Lexicon.forCompilation .empty
    let trip := convert lexicon .localized .primary (convert lexicon .primary .localized source)
    literalTexts (scan false trip) = literalTexts (scan false source) :=
  foreign_forCompilation.literalTexts_trip carriable

/-- A number with a localized keyword behind it, and literals around an interpolation. -/
def mixedText : Text :=
  ("0".toList ++ ['ב', 'ר', 'ע', 'כ', 'ן']) ++ "\"a \\(b / 2) c\"".toList

theorem carriable_mixedText : Carriable mixedText where
  uncontrolled := by decide +kernel
  noBackslash := by decide +kernel
  sameScan := congrArg (Token.place 0)
    (by decide +kernel : lexemes true mixedText = lexemes false mixedText)

theorem literal_texts_trip_mixed :
    Carriable mixedText ∧
      let lexicon := Lexicon.forCompilation .empty
      let trip := convert lexicon .localized .primary
        (convert lexicon .primary .localized mixedText)
      literalTexts (scan false trip) = literalTexts (scan false mixedText) :=
  ⟨carriable_mixedText, literal_texts_trip mixedText carriable_mixedText⟩

/-- A literal that has a slash and a parenthesis in it. -/
def slashText : Text := "\"/(x)\"".toList

/-- What stood in the literal comes back as an interpolation. -/
theorem literal_texts_trip_slash :
    Uncontrolled slashText ∧
      (∀ token ∈ scan false slashText, token.lexeme ≠ ⟨.operator, ['\\']⟩) ∧
      let lexicon := Lexicon.forCompilation .empty
      let trip := convert lexicon .localized .primary
        (convert lexicon .primary .localized slashText)
      trip = "\"\\(x)\"".toList ∧
        literalTexts (scan false trip) = [['"'], ['"']] ∧
        literalTexts (scan false slashText) = [slashText] ∧
        literalTexts (scan false trip) ≠ literalTexts (scan false slashText) := by
  decide +kernel

end Diglot
