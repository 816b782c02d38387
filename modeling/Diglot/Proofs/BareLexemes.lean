import Diglot.Proofs.LexemeShapes

/-!
# Lexemes without controls

Directional controls are stray characters in code and part of the fragment in a literal. The bare
lexemes of a scan are its lexemes without controls, less those that are nothing but controls.
Controls in front of a lexeme do not show in them (`bareLexemes_control`), and neither do the
controls of an isolate around it, for each kind of lexeme that localized text isolates.
-/

set_option autoImplicit false

namespace Diglot

open Text (isNewline)
open Markup (isControl stripControls)

def Lexeme.bare (lexeme : Lexeme) : Lexeme :=
  { lexeme with text := stripControls lexeme.text }

/-- The lexemes without controls, less those of which nothing is left. -/
def bareLexemes (lexemes : List Lexeme) : List Lexeme :=
  (lexemes.map Lexeme.bare).filter fun lexeme => !lexeme.text.isEmpty

def Uncontrolled (text : Text) : Prop :=
  ∀ c ∈ text, isControl c = false

instance (text : Text) : Decidable (Uncontrolled text) :=
  List.decidableBAll (isControl · = false) text

variable {localized : Bool} {depths : List Nat} {x : Char} {other : Text}

@[simp] theorem stripControls_nil : stripControls [] = [] := rfl

theorem stripControls_append (a b : Text) :
    stripControls (a ++ b) = stripControls a ++ stripControls b :=
  List.filter_append a b

theorem stripControls_control (control : isControl x = true) (text : Text) :
    stripControls (x :: text) = stripControls text := by
  simp [stripControls, control]

theorem Uncontrolled.stripControls {text : Text} (plain : Uncontrolled text) :
    Markup.stripControls text = text := by
  apply List.filter_eq_self.2
  intro c member
  simp [plain c member]

/-- The lexemes of a text without controls have none. -/
theorem Uncontrolled.of_mem {source : Text} (plain : Uncontrolled source) {lexeme : Lexeme}
    (member : lexeme ∈ lexemes localized source) : Uncontrolled lexeme.text := by
  intro c inText
  apply plain
  rw [← concat_lexemes localized source]
  exact List.mem_flatMap.2 ⟨lexeme, member, inText⟩

theorem bareLexemes_cons_empty {lexeme : Lexeme} (empty : stripControls lexeme.text = [])
    (lexemes : List Lexeme) : bareLexemes (lexeme :: lexemes) = bareLexemes lexemes := by
  simp [bareLexemes, Lexeme.bare, empty]

theorem bareLexemes_cons {kind : Kind} {text bare : Text} (same : stripControls text = bare)
    (nonempty : bare ≠ []) (lexemes : List Lexeme) :
    bareLexemes (⟨kind, text⟩ :: lexemes) = ⟨kind, bare⟩ :: bareLexemes lexemes := by
  simp [bareLexemes, Lexeme.bare, same, nonempty]

theorem bareLexemes_append (a b : List Lexeme) :
    bareLexemes (a ++ b) = bareLexemes a ++ bareLexemes b := by
  simp [bareLexemes]

/-- Lexemes that have no control are bare. -/
theorem bareLexemes_eq_self {lexemes : List Lexeme}
    (plain : ∀ lexeme ∈ lexemes, Uncontrolled lexeme.text ∧ lexeme.text ≠ []) :
    bareLexemes lexemes = lexemes := by
  induction lexemes with
  | nil => rfl
  | cons lexeme lexemes ih =>
    obtain ⟨uncontrolled, nonempty⟩ := plain lexeme (by simp)
    rw [bareLexemes_cons uncontrolled.stripControls nonempty,
      ih fun other member => plain other (List.mem_cons_of_mem _ member)]

/-! ## Controls in front -/

theorem step_code_control (control : isControl x = true) (cs : Text) :
    step localized (.code depths) x cs = ⟨.unknown, ⟨[x], cs⟩, .code depths⟩ := by
  simp [step, codeStep, Form.ofStart_of_isControl control]

theorem opensHere_control (control : isControl x = true) (cs : Text) :
    Literal.opensHere localized (x :: cs) = false := by
  rw [Bool.eq_false_iff]
  intro opens
  rcases (Literal.opener_eq opens).1 with rfl | ⟨-, rfl⟩
  · exact absurd control (by decide)
  · exact absurd control (by decide)

theorem fragment_control_cons (control : isControl x = true) (cs : Text) :
    Literal.fragment localized (x :: cs) = (Literal.fragment localized cs).after [x] :=
  Literal.fragment_plain (opensHere_control control cs)
    (Literal.ne_of_isControl control (by decide)) (Literal.ne_of_isControl control (by decide))
    (isNewline_eq_false_of_isControl control)

theorem step_string_control (control : isControl x = true) (cs : Text) :
    step localized (.string depths) x cs =
      ⟨.stringLiteral, (Literal.fragment localized cs).cut.after [x],
        contextAfter (Literal.fragment localized cs) depths⟩ := by
  simp [step, stringStep, opensHere_control control, isNewline_eq_false_of_isControl control,
    fragment_control_cons control, Literal.Fragment.after, contextAfter]

/-- A control in front does not show in the bare lexemes, wherever the scanner stands. -/
theorem bareLexemes_control (control : isControl x = true) (context : Context) (cs : Text) :
    bareLexemes (lexemesFrom localized context (x :: cs)) =
      bareLexemes (lexemesFrom localized context cs) := by
  have alone : stripControls [x] = [] := stripControls_control control []
  cases context with
  | code depths =>
    rw [lexemesFrom_cons, step_code_control control]
    exact bareLexemes_cons_empty alone _
  | string depths =>
    rw [lexemesFrom_cons, step_string_control control]
    have nothing (stops : Literal.fragment localized cs = ⟨Cut.nothing cs, false⟩) :
        bareLexemes (⟨.stringLiteral, ((Literal.fragment localized cs).cut.after [x]).taken⟩ ::
          lexemesFrom localized (contextAfter (Literal.fragment localized cs) depths)
            ((Literal.fragment localized cs).cut.after [x]).rest) =
          bareLexemes (lexemesFrom localized (.string depths) cs) := by
      rw [stops]
      exact bareLexemes_cons_empty alone _
    cases cs with
    | nil => exact nothing rfl
    | cons c cs =>
      by_cases opens : Literal.opensHere localized (c :: cs) = true
      · exact nothing (Literal.fragment_opener opens)
      by_cases newline : isNewline c = true
      · exact nothing (Literal.fragment_newline newline)
      -- the control becomes part of the fragment that follows
      · rw [lexemesFrom_cons]
        simp only [step, stringStep, opens, newline, Bool.false_eq_true, if_false]
        simp only [bareLexemes, List.map_cons, Lexeme.bare, Cut.after, List.singleton_append,
          stripControls_control control]

/-! ## Controls behind -/

open Markup (popIsolate isolate)

theorem isControl_popIsolate : isControl popIsolate = true := by decide

/-- The cut takes the text, perhaps with controls behind it, and leaves what reads as `other`. -/
def Absorbs (localized : Bool) (context : Context) (cut : Cut) (text other : Text) : Prop :=
  ∃ extra, cut.taken = text ++ extra ∧ stripControls extra = [] ∧
    bareLexemes (lexemesFrom localized context cut.rest) =
      bareLexemes (lexemesFrom localized context other)

theorem Absorbs.closed_control {context : Context} {text : Text} (control : isControl x = true) :
    Absorbs localized context ⟨text, x :: other⟩ text other :=
  ⟨[], by simp, rfl, bareLexemes_control control context other⟩

theorem Absorbs.closed {context : Context} {text : Text} :
    Absorbs localized context ⟨text, popIsolate :: other⟩ text other :=
  .closed_control isControl_popIsolate

theorem Absorbs.one {context : Context} {text : Text} :
    Absorbs localized context ⟨text ++ [popIsolate], other⟩ text other :=
  ⟨[popIsolate], rfl, rfl, rfl⟩

theorem Absorbs.after {context : Context} {cut : Cut} {text : Text} (front : Text)
    (absorbs : Absorbs localized context cut text other) :
    Absorbs localized context (cut.after front) (front ++ text) other := by
  obtain ⟨extra, taken, bare, rest⟩ := absorbs
  exact ⟨extra, by simp [Cut.after, taken], bare, rest⟩

/-- A step that takes a text with controls behind it gives the text as bare lexeme. -/
theorem bareLexemes_of_absorbs {context next : Context} {kind : Kind} {cut : Cut} {c : Char}
    {cs text : Text} (stepped : step localized context c cs = ⟨kind, cut, next⟩)
    (absorbs : Absorbs localized next cut text other) (plain : Uncontrolled text)
    (nonempty : text ≠ []) :
    bareLexemes (lexemesFrom localized context (c :: cs)) =
      ⟨kind, text⟩ :: bareLexemes (lexemesFrom localized next other) := by
  obtain ⟨extra, taken, bare, rest⟩ := absorbs
  rw [lexemesFrom_cons, stepped]
  dsimp only
  rw [bareLexemes_cons _ nonempty, rest]
  rw [taken, stripControls_append, bare, List.append_nil, plain.stripControls]

variable {parts : Text → Text → Prop}

theorem escapedNameTail_absorbs (inner : InnerParting parts) {cs : Text}
    (resumes : Resumes parts (escapedNameTail cs).rest other) :
    Absorbs localized (.code depths)
      (escapedNameTail ((escapedNameTail cs).taken ++ popIsolate :: other))
      (escapedNameTail cs).taken other := by
  rcases escapedNameTail_cases cs with closed | ⟨ends, goesOn⟩
  · rw [closed]
    exact .closed
  · have sameHead := resumes.ends_of_ends inner ends
    have nothing : escapedNameTail other = Cut.nothing other := by
      cases other with
      | nil => rfl
      | cons d ds =>
        have newline := ends d (by simpa using sameHead.symm)
        simp [escapedNameTail, newline]
    have one : escapedNameTail (popIsolate :: other) = ⟨[popIsolate], other⟩ := by
      rw [escapedNameTail, if_neg (by decide), if_neg (by decide), nothing]
      rfl
    rw [goesOn, one]
    exact .one

/-- A verbatim literal that is not closed ends with the text. -/
theorem verbatim_absorbs (inner : InnerParting parts) {pounds : Nat} {input : Text}
    (opens : Literal.OpensVerbatim pounds input)
    (resumes : Resumes parts (Literal.verbatim pounds input).rest other) :
    Absorbs localized (.code depths)
      (Literal.verbatim pounds ((Literal.verbatim pounds input).taken ++ popIsolate :: other))
      (Literal.verbatim pounds input).taken other := by
  cases Literal.verbatim_ends opens with
  | closed same =>
    rw [same]
    exact .closed
  | atEnd atEnd same =>
    rw [atEnd] at resumes
    obtain rfl := resumes.eq_nil inner
    rw [same popIsolate isControl_popIsolate]
    exact .one

/-- A fragment that is not closed ends with the text, with its line, or before an interpolation,
which is isolated as well. -/
theorem fragment_absorbs (inner : InnerParting parts) {input : Text}
    (resumes : Resumes parts (Literal.fragment localized input).cut.rest other)
    (opener : Literal.opensHere localized (Literal.fragment localized input).cut.rest = true →
      (Literal.fragment localized input).closed = false →
      ∃ o tail, other = o :: tail ∧ isControl o = true ∧
        Literal.opensHere localized tail = true) :
    ∃ cut, Literal.fragment localized
        ((Literal.fragment localized input).cut.taken ++ popIsolate :: other) =
          ⟨cut, (Literal.fragment localized input).closed⟩ ∧
      Absorbs localized (contextAfter (Literal.fragment localized input) depths) cut
        (Literal.fragment localized input).cut.taken other := by
  cases Literal.fragment_ends localized input with
  | closed isClosed _ same => exact ⟨_, by rw [same, isClosed], .closed⟩
  | atEnd isOpen atEnd same =>
    rw [atEnd] at resumes
    obtain rfl := resumes.eq_nil inner
    exact ⟨_, by rw [same popIsolate isControl_popIsolate, isOpen], .one⟩
  | before isOpen stops goesOn =>
    have goesOn := goesOn (popIsolate :: other) (by simp [popIsolate])
    rw [fragment_control_cons isControl_popIsolate] at goesOn
    rcases stops with opens | ⟨c, cs, rest, newline⟩
    · obtain ⟨o, tail, rfl, control, opensTail⟩ := opener opens isOpen
      rw [fragment_control_cons control, Literal.fragment_opener opensTail] at goesOn
      refine ⟨_, by rw [goesOn, isOpen]; rfl, [popIsolate, o], rfl, ?_, ?_⟩
      · rw [stripControls_control isControl_popIsolate, stripControls_control control]
        rfl
      · exact (bareLexemes_control control _ tail).symm
    · have sameHead := resumes.ends_of_ends inner (by simp [rest, newline])
      rw [rest] at sameHead
      obtain ⟨tail, rfl⟩ : ∃ tail, other = c :: tail := by
        cases other with
        | nil => simp at sameHead
        | cons d ds => exact ⟨ds, by simpa using sameHead⟩
      rw [Literal.fragment_newline newline] at goesOn
      exact ⟨_, by rw [goesOn, isOpen]; rfl, .one⟩

/-! ## Isolated lexemes -/

theorem isolate_append (opener : Char) (text : Text) :
    isolate opener text ++ other = opener :: (text ++ popIsolate :: other) := by
  simp [isolate]

/-- A word inside an isolate is read as the word. -/
theorem bareLexemes_word {opener : Char} {word : Text} (control : isControl opener = true)
    (isWord : isWord word = true) :
    bareLexemes (lexemesFrom localized (.code depths) (isolate opener word ++ other)) =
      ⟨wordKind word, word⟩ :: bareLexemes (lexemesFrom localized (.code depths) other) := by
  rw [isolate_append, bareLexemes_control control]
  cases word with
  | nil => simp [Diglot.isWord] at isWord
  | cons c cs =>
    have ends : ∀ d ∈ (popIsolate :: other).head?, continuesWord d = false := by
      intro d next
      obtain rfl : popIsolate = d := by simpa using next
      exact continuesWord_eq_false_of_isControl isControl_popIsolate
    have stepped : step localized (.code depths) c (cs ++ popIsolate :: other) =
        ⟨wordKind (c :: cs), ⟨c :: cs, popIsolate :: other⟩, .code depths⟩ := step_word isWord ends
    exact bareLexemes_of_absorbs stepped .closed (isControl_eq_false_of_mem_word isWord) (by simp)

/-! ## Operators -/

/-- The pieces of a text in which every backslash stands alone. -/
def slashPieces : Text → List Text
  | [] => []
  | c :: cs =>
    if c = '\\' then [c] :: slashPieces cs
    else (c :: cs.takeWhile (· != '\\')) :: slashPieces (cs.dropWhile (· != '\\'))
termination_by text => text.length
decreasing_by
  · simp
  · have shorter := (List.dropWhile_suffix (l := cs) (· != '\\')).length_le
    simp only [List.length_cons]
    omega

theorem flatten_slashPieces (text : Text) : (slashPieces text).flatten = text := by
  fun_induction slashPieces text with
  | case1 => rfl
  | case2 cs ih => simp [ih]
  | case3 c cs _ ih => simp [ih]

theorem ne_nil_of_mem_slashPieces {text piece : Text} (member : piece ∈ slashPieces text) :
    piece ≠ [] := by
  fun_induction slashPieces text with
  | case1 => simp at member
  | case2 cs ih =>
    rcases List.mem_cons.1 member with rfl | member
    · simp
    · exact ih member
  | case3 c cs _ ih =>
    rcases List.mem_cons.1 member with rfl | member
    · simp
    · exact ih member

theorem Comment.startsHere_of_ne {c : Char} (noSlash : c ≠ '/') (cs : Text) :
    Comment.startsHere (c :: cs) = false := by
  rw [Bool.eq_false_iff, ne_eq, Comment.startsHere_iff]
  rintro ⟨slash, -⟩
  exact noSlash (by simpa using slash)

/-- An operator without slashes goes up to where no operator goes on. -/
theorem operatorTail_eq {cs rest : Text}
    (operators : ∀ c ∈ cs, isOperatorChar c = true ∧ c ≠ '/')
    (stops : operatorTail rest = Cut.nothing rest) :
    operatorTail (cs ++ rest) = ⟨cs, rest⟩ := by
  induction cs with
  | nil => exact stops
  | cons c cs ih =>
    obtain ⟨operator, noSlash⟩ := operators c (by simp)
    have noComment := Comment.startsHere_of_ne noSlash (cs ++ rest)
    have tail := ih fun d member => operators d (List.mem_cons_of_mem c member)
    rw [List.cons_append, operatorTail, if_pos (by simp [operator, noComment]), tail]
    rfl

theorem Form.ofStart_backslash (cs : Text) : Form.ofStart '\\' cs = .backslash := by
  simp [Form.ofStart, show Text.isBlank '\\' = false by decide,
    show Text.isDigit '\\' = false by decide]

/-- An operator character is an operator unless a comment starts with it. -/
theorem Form.ofStart_operator {c : Char} {cs : Text} (operator : isOperatorChar c = true)
    (noComment : Comment.startsHere (c :: cs) = false) : Form.ofStart c cs = .operator := by
  have each : ∀ d ∈ ['+', '-', '*', '/', '%', '=', '<', '>', '!', '&', '|', '^', '~', '?'],
      d ≠ '"' ∧ d ≠ '#' ∧ Text.isBlank d = false ∧ Text.isDigit d = false ∧ d ≠ '\\' :=
    forall_mem_of_all (by decide)
  obtain ⟨quote, pound, blank, digit, backslash⟩ :=
    each c (by simpa [isOperatorChar] using operator)
  have noLine : ¬(c = '/' ∧ cs.head? = some '/') := by
    rintro ⟨rfl, next⟩
    have starts : Comment.startsHere ('/' :: cs) = true :=
      Comment.startsHere_iff.2 ⟨rfl, .inl next⟩
    simp [starts] at noComment
  have noBlock : ¬(c = '/' ∧ cs.head? = some '*') := by
    rintro ⟨rfl, next⟩
    have starts : Comment.startsHere ('/' :: cs) = true :=
      Comment.startsHere_iff.2 ⟨rfl, .inr next⟩
    simp [starts] at noComment
  simp [Form.ofStart, quote, pound, noLine, noBlock, blank, digit, backslash, operator]

theorem isControl_eq_false_of_operator {c : Char}
    (h : c = '\\' ∨ isOperatorChar c = true ∧ c ≠ '/') : isControl c = false := by
  rcases h with rfl | ⟨operator, -⟩
  · decide
  · rw [Bool.eq_false_iff]
    intro control
    simp [asked_isOperatorChar c (isInert_of_isControl control)] at operator

/-- An operator with backslashes in it goes up to the next backslash. -/
theorem operatorTail_run {cs : Text}
    (operators : ∀ c ∈ cs, c = '\\' ∨ isOperatorChar c = true ∧ c ≠ '/')
    (stops : operatorTail other = Cut.nothing other) :
    operatorTail (cs ++ other) =
      ⟨cs.takeWhile (· != '\\'), cs.dropWhile (· != '\\') ++ other⟩ := by
  obtain ⟨before, behind⟩ := Cut.span_eq_iff.1 (Cut.eq_of_whole (Cut.whole_span (· != '\\')) cs)
  have split : cs ++ other =
      cs.takeWhile (· != '\\') ++ (cs.dropWhile (· != '\\') ++ other) := by
    rw [← List.append_assoc, List.takeWhile_append_dropWhile]
  rw [split]
  apply operatorTail_eq
  · intro d member
    have inside := (List.takeWhile_sublist _).mem member
    refine (operators d inside).resolve_left ?_
    simpa using before d member
  · cases left : cs.dropWhile (· != '\\') with
    | nil => exact stops
    | cons e es =>
      obtain rfl : e = '\\' := by simpa using behind e (by simp [Cut.span, left])
      rfl

/-- Operators without a forward slash, with backslashes among them, are read piece by piece. -/
theorem lexemesFrom_operators {text : Text}
    (operators : ∀ c ∈ text, c = '\\' ∨ isOperatorChar c = true ∧ c ≠ '/')
    (stops : operatorTail other = Cut.nothing other) :
    lexemesFrom localized (.code depths) (text ++ other) =
      (slashPieces text).map (Lexeme.mk .operator) ++
        lexemesFrom localized (.code depths) other := by
  fun_induction slashPieces text with
  | case1 => rfl
  | case2 cs ih =>
    have stepped : step localized (.code depths) '\\' (cs ++ other) =
        ⟨.operator, ⟨['\\'], cs ++ other⟩, .code depths⟩ := by
      simp only [step, codeStep, Form.ofStart_backslash]
    rw [List.cons_append, lexemesFrom_cons, stepped]
    dsimp only
    rw [ih fun c member => operators c (List.mem_cons_of_mem _ member)]
    rfl
  | case3 c cs noBackslash ih =>
    obtain ⟨operator, noSlash⟩ := (operators c (by simp)).resolve_left noBackslash
    have tail : ∀ d ∈ cs, d = '\\' ∨ isOperatorChar d = true ∧ d ≠ '/' :=
      fun d member => operators d (List.mem_cons_of_mem _ member)
    have stepped : step localized (.code depths) c (cs ++ other) =
        ⟨.operator, ⟨c :: cs.takeWhile (· != '\\'), cs.dropWhile (· != '\\') ++ other⟩,
          .code depths⟩ := by
      have form : Form.ofStart c (cs ++ other) = .operator :=
        Form.ofStart_operator operator (Comment.startsHere_of_ne noSlash _)
      simp only [step, codeStep, form, operatorTail_run tail stops]
      rfl
    rw [List.cons_append, lexemesFrom_cons, stepped]
    dsimp only
    rw [ih fun d member => tail d ((List.dropWhile_sublist _).mem member)]
    rfl

/-- In an isolate they are read piece by piece as well. -/
theorem bareLexemes_operators {text : Text}
    (operators : ∀ c ∈ text, c = '\\' ∨ isOperatorChar c = true ∧ c ≠ '/') :
    bareLexemes (lexemesFrom localized (.code depths) (text ++ popIsolate :: other)) =
      (slashPieces text).map (Lexeme.mk .operator) ++
        bareLexemes (lexemesFrom localized (.code depths) other) := by
  rw [lexemesFrom_operators operators rfl, bareLexemes_append,
    bareLexemes_control isControl_popIsolate, bareLexemes_eq_self]
  intro lexeme member
  obtain ⟨piece, inPieces, rfl⟩ := List.mem_map.1 member
  refine ⟨fun c inPiece => isControl_eq_false_of_operator (operators c ?_),
    ne_nil_of_mem_slashPieces inPieces⟩
  rw [← flatten_slashPieces text]
  exact List.mem_flatten.2 ⟨piece, inPieces, inPiece⟩

end Diglot
