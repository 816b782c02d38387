import Diglot.Proofs.FrameStack
import Diglot.Proofs.LexemeShapes
import Mathlib.Data.List.Basic

/-!
# Openers that only localized text has

A slash and a parenthesis open an interpolation in a literal of localized text, and are two
characters of the literal in any other. Nowhere else does it matter to a scan whether the text is
localized: the two scans of a source take the same steps up to the first such opener
(`step_eq_or_parts`, `lexemesFrom_eq_or_parts`), where one of them stops a fragment that the other
goes on with.

The main result is `scans_part_at_slash`.
-/

set_option autoImplicit false

namespace Diglot

open Text (isNewline)
open Cursor (fragmentLexemes lexemesFrom_fragment lexemesFrom_opener)

/-- The opener that only localized text has. -/
def slashOpener : Lexeme := ⟨.delimiter, ['/', '(']⟩

/-- The tokens that end at the offset or before it. -/
def Token.endedBy (offset : Nat) (tokens : List Token) : List Token :=
  tokens.filter (·.stop ≤ offset)

/-! ## Fragments -/

namespace Literal

/-- One fragment stops before a slash opener that the other goes on past. -/
structure Fragment.PartsFrom (stopped passed : Fragment) : Prop where
  isOpen : stopped.closed = false
  stops : ['/', '('] <+: stopped.cut.rest
  passes : stopped.cut.taken ++ ['/', '('] <+: passed.cut.taken

theorem Fragment.PartsFrom.after {stopped passed : Fragment} (parts : stopped.PartsFrom passed)
    (front : Text) : (stopped.after front).PartsFrom (passed.after front) where
  isOpen := parts.isOpen
  stops := parts.stops
  passes := by
    simp only [Fragment.after, Cut.after, List.append_assoc]
    exact (List.prefix_append_right_inj front).2 parts.passes

/-- An opener of any text opens an interpolation in localized text. -/
theorem opensHere_true_of_false {input : Text} (opens : opensHere false input = true) :
    opensHere true input = true := by
  rw [opensHere_iff] at opens ⊢
  exact ⟨opens.1.imp id (by simp), opens.2⟩

/-- Past a slash opener, where the text is not localized. -/
theorem fragment_slash (cs : Text) :
    fragment false ('/' :: '(' :: cs) = (fragment false cs).after ['/', '('] := by
  rw [fragment_plain rfl (by decide) (by decide) (by decide),
    fragment_plain rfl (by decide) (by decide) (by decide), Fragment.after_after]
  rfl

/-- The fragment is the same for both texts, or one of them has an opener in it. -/
theorem fragment_eq_or_parts (input : Text) :
    fragment true input = fragment false input ∨
      (fragment true input).PartsFrom (fragment false input) := by
  have longer {stopped passed : Fragment} (front : Text)
      (ih : stopped = passed ∨ stopped.PartsFrom passed) :
      stopped.after front = passed.after front ∨
        (stopped.after front).PartsFrom (passed.after front) :=
    ih.imp (congrArg (Fragment.after front)) (Fragment.PartsFrom.after · front)
  fun_induction fragment true input with
  | case1 => exact .inl rfl
  | case2 => exact .inl rfl
  | case3 c noQuote newline => exact .inl (by simp [fragment, noQuote, newline])
  | case4 c noQuote inside => exact .inl (by simp [fragment, noQuote, inside])
  | case5 c d cs opens =>
    obtain ⟨rfl | ⟨-, rfl⟩, tail, same⟩ := opener_eq opens
    · have opensFalse : opensHere false ('\\' :: d :: cs) = true :=
        opensHere_iff.2 ⟨.inl rfl, (opensHere_iff.1 opens).2⟩
      exact .inl (fragment_opener opensFalse).symm
    -- the one place where the two part
    · obtain ⟨rfl, rfl⟩ : d = '(' ∧ cs = tail := by simpa using same
      rw [fragment_slash]
      exact .inr ⟨rfl, ⟨cs, rfl⟩, ⟨_, rfl⟩⟩
  | case6 d cs noOpener ih =>
    have noParenthesis : d ≠ '(' := by
      rintro rfl
      exact noOpener rfl
    rw [fragment_escape noParenthesis]
    exact longer _ ih
  | case7 d cs noOpener noEscape =>
    rw [fragment_quote]
    exact .inl rfl
  | case8 c d cs noOpener noEscape noQuote newline =>
    rw [fragment_newline newline]
    exact .inl rfl
  | case9 c d cs noOpener noEscape noQuote inside ih =>
    have noOpenerFalse : opensHere false (c :: d :: cs) = false := by
      rw [Bool.eq_false_iff]
      exact fun opens => noOpener (opensHere_true_of_false opens)
    rw [fragment_plain noOpenerFalse noEscape noQuote (by simpa using inside)]
    exact longer _ ih

/-- A slash opener parts the fragments. -/
theorem opensHere_eq_of_fragment {c : Char} {cs : Text}
    (same : fragment true (c :: cs) = fragment false (c :: cs)) :
    opensHere true (c :: cs) = opensHere false (c :: cs) := by
  rw [Bool.eq_iff_iff]
  refine ⟨fun opens => ?_, opensHere_true_of_false⟩
  obtain ⟨rfl | ⟨-, rfl⟩, tail, rfl⟩ := opener_eq opens
  · rfl
  · rw [fragment_opener opens, fragment_slash] at same
    simp [Fragment.after, Cut.after, Cut.nothing] at same

end Literal

/-! ## One step -/

/-- Two sequences of lexemes that are the same up to a fragment, which one of them has as a whole
where the other has an opener in it. -/
inductive PartsAtOpener : List Lexeme → List Lexeme → Prop
  | here (front more : Text) (others later : List Lexeme) :
      PartsAtOpener (⟨.stringLiteral, front ++ ['/', '('] ++ more⟩ :: others)
        (fragmentLexemes front ++ slashOpener :: later)
  | next {primary localized : List Lexeme} (lexeme : Lexeme)
      (parts : PartsAtOpener primary localized) :
      PartsAtOpener (lexeme :: primary) (lexeme :: localized)

/-- Only a plain literal is read otherwise in localized text. -/
theorem codeStep_eq_of_fragment {depths : List Nat} {c : Char} {cs : Text}
    (same : Form.ofStart c cs = .literal →
      Literal.fragment true cs = Literal.fragment false cs) :
    codeStep true depths c cs = codeStep false depths c cs := by
  cases form : Form.ofStart c cs with
  | literal => simp only [codeStep, form, same form]
  | _ => simp only [codeStep, form]

/-- A literal whose fragments part, with what stands before the fragment in its lexeme. -/
theorem partsAtOpener_fragment (front : Text) {input : Text} {depths : List Nat}
    {others : List Lexeme}
    (parts : (Literal.fragment true input).PartsFrom (Literal.fragment false input)) :
    PartsAtOpener
      (fragmentLexemes (front ++ (Literal.fragment false input).cut.taken) ++ others)
      (fragmentLexemes (front ++ (Literal.fragment true input).cut.taken) ++
        lexemesFrom true (contextAfter (Literal.fragment true input) depths)
          (Literal.fragment true input).cut.rest) := by
  obtain ⟨isOpen, ⟨tail, stops⟩, ⟨more, passes⟩⟩ := parts
  have opens : Literal.opensHere true (Literal.fragment true input).cut.rest = true := by
    rw [← stops]
    rfl
  have inside : contextAfter (Literal.fragment true input) depths = .string depths := by
    simp [contextAfter, isOpen]
  have whole (text : Text) : fragmentLexemes (text ++ ['/', '('] ++ more) =
      [⟨.stringLiteral, text ++ ['/', '('] ++ more⟩] := by
    rw [fragmentLexemes, if_neg (by simp)]
  rw [inside, (lexemesFrom_opener depths opens).2.2, ← stops, ← passes, ← List.append_assoc,
    ← List.append_assoc, whole]
  exact .here _ more others _

/-- The next step is the same for both texts, or only localized text has an opener in the fragment
that begins here. -/
theorem step_eq_or_parts (context : Context) (c : Char) (cs : Text) :
    step true context c cs = step false context c cs ∨
      PartsAtOpener (lexemesFrom false context (c :: cs)) (lexemesFrom true context (c :: cs)) := by
  cases context with
  | code depths =>
    by_cases form : Form.ofStart c cs = .literal
    · rcases Literal.fragment_eq_or_parts cs with same | parts
      · exact .inl (codeStep_eq_of_fragment fun _ => same)
      · refine .inr ?_
        have opened (localized : Bool) :
            lexemesFrom localized (.code depths) (c :: cs) =
              fragmentLexemes ([c] ++ (Literal.fragment localized cs).cut.taken) ++
                lexemesFrom localized (contextAfter (Literal.fragment localized cs) depths)
                  (Literal.fragment localized cs).cut.rest := by
          rw [lexemesFrom_cons]
          simp only [step, codeStep, form]
          rfl
        rw [opened, opened]
        exact partsAtOpener_fragment [c] parts
    · exact .inl (codeStep_eq_of_fragment fun literal => absurd literal form)
  | string depths =>
    rcases Literal.fragment_eq_or_parts (c :: cs) with same | parts
    · have sameOpener := Literal.opensHere_eq_of_fragment same
      -- at a line end the literal is left for blanks, never for another literal
      have sameCode (newline : isNewline c = true) :
          codeStep true depths c cs = codeStep false depths c cs := by
        refine codeStep_eq_of_fragment fun literal => ?_
        simp [Form.ofStart_newline newline] at literal
      refine .inl ?_
      simp only [step, stringStep, sameOpener, same]
      by_cases newline : isNewline c = true
      · rw [sameCode newline]
      · simp only [newline]
        rfl
    · refine .inr ?_
      rw [lexemesFrom_fragment, lexemesFrom_fragment]
      exact partsAtOpener_fragment [] parts

/-! ## A whole scan -/

/-- The scans of a text are the same, or part at an opener. -/
theorem lexemesFrom_eq_or_parts (context : Context) (input : Text) :
    lexemesFrom true context input = lexemesFrom false context input ∨
      PartsAtOpener (lexemesFrom false context input) (lexemesFrom true context input) := by
  -- along the scan of localized text, which the other follows as long as the steps are the same
  fun_induction lexemesFrom true context input with
  | case1 context => exact .inl (lexemesFrom_nil false context).symm
  | case2 context c cs next ih =>
    rcases step_eq_or_parts context c cs with same | parts
    · have goesOn : lexemesFrom false context (c :: cs) =
          ⟨next.kind, next.cut.taken⟩ :: lexemesFrom false next.context next.cut.rest := by
        rw [lexemesFrom_cons, ← same]
      rw [goesOn]
      exact ih.imp (congrArg _) (.next _)
    · rw [lexemesFrom_cons true] at parts
      exact .inr parts

/-! ## Where the tokens stand -/

/-- Nothing that is placed behind an offset ends before it. -/
theorem Token.endedBy_place {offset start : Nat} {lexemes : List Lexeme}
    (nonempty : ∀ lexeme ∈ lexemes, lexeme.text ≠ []) (behind : offset ≤ start) :
    endedBy offset (place start lexemes) = [] := by
  unfold endedBy
  induction lexemes generalizing start with
  | nil => rfl
  | cons lexeme lexemes ih =>
    obtain ⟨first, others⟩ := List.forall_mem_cons.1 nonempty
    have length := List.length_pos_iff.2 first
    have later : ¬start + lexeme.text.length ≤ offset := by omega
    rw [place, List.filter_cons_of_neg (by simpa using later)]
    exact ih others (by omega)

/-- The first slash opener stands right behind the fragment that it stops. -/
theorem find?_place_fragment (offset : Nat) (front : Text) (later : List Lexeme) :
    (Token.place offset (fragmentLexemes front ++ slashOpener :: later)).find?
        (·.lexeme = slashOpener) =
      some ⟨slashOpener, offset + front.length, offset + front.length + 2, by omega⟩ := by
  have noOpener : (Token.place offset (fragmentLexemes front)).find?
      (·.lexeme = slashOpener) = none := by
    cases front <;> rfl
  rw [Cursor.place_append, List.find?_append, noOpener, Cursor.concat_fragmentLexemes]
  rfl

namespace PartsAtOpener

variable {primary localized : List Lexeme}

theorem mem (parts : PartsAtOpener primary localized) : slashOpener ∈ localized := by
  induction parts with
  | here front more others later => simp
  | next lexeme _ ih => exact List.mem_cons_of_mem _ ih

/-- The first slash opener stands in a fragment of the other sequence, and what ends before that
fragment is the same in both. -/
theorem exists_fragment (parts : PartsAtOpener primary localized) {offset : Nat} {opener : Token}
    (noOpener : slashOpener ∉ primary) (nonempty : ∀ lexeme ∈ primary, lexeme.text ≠ [])
    (nonemptyLocalized : ∀ lexeme ∈ localized, lexeme.text ≠ [])
    (first : (Token.place offset localized).find? (·.lexeme = slashOpener) = some opener) :
    ∃ fragment ∈ Token.place offset primary, fragment.lexeme.kind = .stringLiteral ∧
      fragment.start ≤ opener.start ∧ opener.stop ≤ fragment.stop ∧
      Token.endedBy fragment.start (Token.place offset localized) =
        Token.endedBy fragment.start (Token.place offset primary) := by
  induction parts generalizing offset with
  | here front more others later =>
    rw [find?_place_fragment] at first
    cases first
    refine ⟨_, List.mem_cons_self, rfl, ?_, ?_, ?_⟩
    · exact Nat.le_add_right offset front.length
    · simp only [List.length_append, List.length_cons, List.length_nil]
      omega
    · rw [Token.endedBy_place nonemptyLocalized (Nat.le_refl offset),
        Token.endedBy_place nonempty (Nat.le_refl offset)]
  | next lexeme parts ih =>
    obtain ⟨other, noOpener⟩ := List.ne_and_not_mem_of_not_mem_cons noOpener
    have others := (List.forall_mem_cons.1 nonempty).2
    have othersLocalized := (List.forall_mem_cons.1 nonemptyLocalized).2
    rw [Token.place, List.find?_cons_of_neg (by simpa using other.symm)] at first
    obtain ⟨fragment, member, literal, start, stop, same⟩ :=
      ih noOpener others othersLocalized first
    refine ⟨fragment, List.mem_cons_of_mem _ member, literal, start, stop, ?_⟩
    unfold Token.endedBy at same ⊢
    rw [Token.place, Token.place, List.filter_cons, List.filter_cons, same]

end PartsAtOpener

theorem lexemes_eq_iff (source : Text) :
    lexemes true source = lexemes false source ↔ slashOpener ∉ lexemes true source := by
  constructor
  · intro same
    rw [same]
    exact slash_not_mem source
  · intro noOpener
    exact (lexemesFrom_eq_or_parts .top source).resolve_right fun parts => noOpener parts.mem

/-- Whether a text is localized matters to its scan only where a slash opens an interpolation. The
two scans of a source are the same exactly if there is no such opener, in particular if the source
has no slash before a parenthesis; and in any case they are the same up to the fragment that has the
first of them in it. -/
theorem scans_part_at_slash (source : Text) :
    (scan true source = scan false source ↔
        ∀ token ∈ scan true source, token.lexeme ≠ slashOpener) ∧
      (¬['/', '('] <:+: source → scan true source = scan false source) ∧
      ∀ opener, (scan true source).find? (·.lexeme = slashOpener) = some opener →
        ∃ fragment ∈ scan false source, fragment.lexeme.kind = .stringLiteral ∧
          fragment.start ≤ opener.start ∧ opener.stop ≤ fragment.stop ∧
          Token.endedBy fragment.start (scan true source) =
            Token.endedBy fragment.start (scan false source) := by
  have same_iff : scan true source = scan false source ↔ slashOpener ∉ lexemes true source := by
    rw [scan, scan, Token.place_inj, lexemes_eq_iff]
  have mem_iff : slashOpener ∈ lexemes true source ↔
      ∃ token ∈ scan true source, token.lexeme = slashOpener := by
    rw [← map_lexeme_scan, List.mem_map]
  refine ⟨?_, ?_, ?_⟩
  · rw [same_iff, mem_iff]
    simp
  · intro noSlash
    refine same_iff.2 fun member => noSlash ?_
    rw [← concat_lexemes true source]
    exact List.infix_of_mem_flatten (List.mem_map_of_mem member)
  · intro opener first
    have nonempty {localized : Bool} : ∀ lexeme ∈ lexemes localized source, lexeme.text ≠ [] :=
      fun lexeme member => (shaped_of_mem member).nonempty
    have differ : lexemes true source ≠ lexemes false source := by
      intro same
      have member := List.mem_of_find?_eq_some first
      have isOpener : opener.lexeme = slashOpener := by simpa using List.find?_some first
      exact (lexemes_eq_iff source).1 same (mem_iff.2 ⟨opener, member, isOpener⟩)
    have parts : PartsAtOpener (lexemes false source) (lexemes true source) :=
      (lexemesFrom_eq_or_parts .top source).resolve_left differ
    exact parts.exists_fragment (slash_not_mem source) nonempty nonempty first

/-- A literal with an opener of any text, and one of localized text alone. -/
def bothOpeners : Text := ['"', '\\', '(', 'a', ')', ' ', '/', '(', 'b', ')', '"']

theorem scans_part_at_slash_bothOpeners :
    (scan true bothOpeners).find? (·.lexeme = slashOpener) =
        some ⟨slashOpener, 6, 8, by decide⟩ ∧
      (∃ fragment ∈ scan false bothOpeners, fragment.lexeme.kind = .stringLiteral ∧
        fragment.start ≤ 6 ∧ 8 ≤ fragment.stop ∧
        Token.endedBy fragment.start (scan true bothOpeners) =
          Token.endedBy fragment.start (scan false bothOpeners)) ∧
      ¬['/', '('] <:+: ['/', '"', '/', '"', '('] ∧
      scan true ['/', '"', '/', '"', '('] = scan false ['/', '"', '/', '"', '('] := by
  have found : lexemes true bothOpeners =
      [⟨.stringLiteral, ['"']⟩, ⟨.delimiter, ['\\', '(']⟩, ⟨.identifier, ['a']⟩,
        ⟨.delimiter, [')']⟩, ⟨.stringLiteral, [' ']⟩, slashOpener, ⟨.identifier, ['b']⟩,
        ⟨.delimiter, [')']⟩, ⟨.stringLiteral, ['"']⟩] := by
    decide +kernel
  have first : (scan true bothOpeners).find? (·.lexeme = slashOpener) =
      some ⟨slashOpener, 6, 8, by decide⟩ := by
    rw [scan, found]
    rfl
  have noSlash : ¬['/', '('] <:+: ['/', '"', '/', '"', '('] := by decide
  exact ⟨first, (scans_part_at_slash bothOpeners).2.2 _ first, noSlash,
    (scans_part_at_slash _).2.1 noSlash⟩

end Diglot
