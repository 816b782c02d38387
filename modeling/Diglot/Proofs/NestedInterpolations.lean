import Diglot.Proofs.FrameStack
import Diglot.Proofs.LexemeShapes
import Diglot.Proofs.TextPieces

/-!
# Interpolations nest

Reading the lexemes of a scan from left to right, a closing delimiter closes the last opener that is
not closed yet, and the parentheses between the two are closed as well (`ClosersMatch`). Where some
interpolations are still open, the scanner knows how many parentheses are open in each of them
(`Nested`), and it stands in a literal around each (`Alternates`).

Both hold before the first turn of the scanner's loop, and a turn keeps them (`Sound.turn`), so they
hold at every point of a scan (`interpolations_nest`).
-/

set_option autoImplicit false

namespace Diglot

/-! ## Brackets among lexemes -/

def closingDelimiter : Lexeme := ⟨.delimiter, [')']⟩

def leftParenthesis : Lexeme := ⟨.punctuation, ['(']⟩

def rightParenthesis : Lexeme := ⟨.punctuation, [')']⟩

def Lexeme.opensInterpolation (lexeme : Lexeme) : Bool :=
  lexeme = ⟨.delimiter, ['\\', '(']⟩ || lexeme = ⟨.delimiter, ['/', '(']⟩

def Lexeme.isPlain (lexeme : Lexeme) : Bool :=
  lexeme.kind ≠ .delimiter && lexeme ≠ leftParenthesis && lexeme ≠ rightParenthesis

/-- What may stand between an opener and its closing delimiter: every parenthesis and every
interpolation that begins there also ends there. -/
inductive Interior : List Lexeme → Prop
  | nil : Interior []
  | plain {lexeme : Lexeme} {rest : List Lexeme} : lexeme.isPlain = true → Interior rest →
      Interior (lexeme :: rest)
  | parentheses {inner rest : List Lexeme} : Interior inner → Interior rest →
      Interior (leftParenthesis :: inner ++ rightParenthesis :: rest)
  | interpolation {opener : Lexeme} {inner rest : List Lexeme} :
      opener.opensInterpolation = true → Interior inner → Interior rest →
      Interior (opener :: inner ++ closingDelimiter :: rest)

/-- Every closing delimiter closes an opener before it, with nothing left open between the two. -/
def ClosersMatch (lexemes : List Lexeme) : Prop :=
  ∀ before after, lexemes = before ++ closingDelimiter :: after →
    ∃ front opener inner, before = front ++ opener :: inner ∧ opener.opensInterpolation = true ∧
      Interior inner

/-- The beginning of an interior in which `depth` parentheses are open. -/
def Unclosed : Nat → List Lexeme → Prop
  | 0, lexemes => Interior lexemes
  | depth + 1, lexemes =>
    ∃ front inner, lexemes = front ++ leftParenthesis :: inner ∧ Unclosed depth front ∧
      Interior inner

/-- The openers that are not closed, the last one first, each with the number of parentheses that
are open in its interpolation. -/
def Inside : List Nat → List Lexeme → Prop
  | [], _ => True
  | depth :: outer, lexemes =>
    ∃ front opener inner, lexemes = front ++ opener :: inner ∧ opener.opensInterpolation = true ∧
      Inside outer front ∧ Unclosed depth inner

section Brackets

variable {a b lexemes : List Lexeme} {lexeme : Lexeme} {depth : Nat} {depths : List Nat}

theorem Interior.append (first : Interior a) (second : Interior b) : Interior (a ++ b) := by
  induction first with
  | nil => exact second
  | plain isPlain _ ih => exact .plain isPlain ih
  | @parentheses inner rest inside _ _ ih =>
    have grouped : leftParenthesis :: inner ++ rightParenthesis :: rest ++ b =
        leftParenthesis :: inner ++ rightParenthesis :: (rest ++ b) := by simp
    rw [grouped]
    exact .parentheses inside ih
  | @interpolation opener inner rest opens inside _ _ ih =>
    have grouped : opener :: inner ++ closingDelimiter :: rest ++ b =
        opener :: inner ++ closingDelimiter :: (rest ++ b) := by simp
    rw [grouped]
    exact .interpolation opens inside ih

theorem Unclosed.append (first : Unclosed depth a) (second : Interior b) :
    Unclosed depth (a ++ b) := by
  cases depth with
  | zero => exact Interior.append first second
  | succ depth =>
    obtain ⟨front, inner, rfl, unclosed, inside⟩ := first
    exact ⟨front, inner ++ b, by simp, unclosed, inside.append second⟩

theorem Inside.append (first : Inside depths a) (second : Interior b) :
    Inside depths (a ++ b) := by
  cases depths with
  | nil => trivial
  | cons depth outer =>
    obtain ⟨front, opener, inner, rfl, opens, inside, unclosed⟩ := first
    exact ⟨front, opener, inner ++ b, by simp, opens, inside, unclosed.append second⟩

/-! ## One more lexeme -/

/-- Where interpolations are open, and all that were closed match. -/
structure Nested (depths : List Nat) (lexemes : List Lexeme) : Prop where
  inside : Inside depths lexemes
  matched : ClosersMatch lexemes

theorem nested_nil : Nested [] [] :=
  ⟨trivial, fun before after split => by simp at split⟩

theorem ClosersMatch.concat (matched : ClosersMatch lexemes)
    (last : lexeme = closingDelimiter → ∃ front opener inner, lexemes = front ++ opener :: inner ∧
      opener.opensInterpolation = true ∧ Interior inner) :
    ClosersMatch (lexemes ++ [lexeme]) := by
  intro before after split
  rcases Text.split_append split with ⟨rest, earlier, -⟩ | ⟨front, rfl, here⟩
  · exact matched before rest earlier
  · obtain ⟨rfl, same, -⟩ := Text.split_singleton here
    rw [List.append_nil]
    exact last same.symm

theorem Nested.concat (nested : Nested depths lexemes) (other : lexeme ≠ closingDelimiter)
    {deeper : List Nat} (inside : Inside deeper (lexemes ++ [lexeme])) :
    Nested deeper (lexemes ++ [lexeme]) :=
  ⟨inside, nested.matched.concat fun same => absurd same other⟩

/-- Outside of interpolations every lexeme but a closing delimiter may follow. -/
theorem Nested.outside (nested : Nested [] lexemes) (other : lexeme ≠ closingDelimiter) :
    Nested [] (lexemes ++ [lexeme]) :=
  nested.concat other trivial

theorem Nested.plain (nested : Nested depths lexemes) (plain : lexeme.isPlain = true) :
    Nested depths (lexemes ++ [lexeme]) := by
  have other : lexeme ≠ closingDelimiter := by
    rintro rfl
    exact absurd plain (by decide)
  exact nested.concat other (nested.inside.append (.plain plain .nil))

theorem Nested.opener (nested : Nested depths lexemes) (opens : lexeme.opensInterpolation = true) :
    Nested (0 :: depths) (lexemes ++ [lexeme]) := by
  have other : lexeme ≠ closingDelimiter := by
    rintro rfl
    exact absurd opens (by decide)
  exact nested.concat other ⟨lexemes, lexeme, [], rfl, opens, nested.inside, .nil⟩

theorem Nested.left (nested : Nested (depth :: depths) lexemes) :
    Nested ((depth + 1) :: depths) (lexemes ++ [leftParenthesis]) := by
  apply nested.concat (by decide)
  obtain ⟨front, opener, inner, rfl, opens, inside, unclosed⟩ := nested.inside
  exact ⟨front, opener, inner ++ [leftParenthesis], by simp, opens, inside,
    inner, [], rfl, unclosed, .nil⟩

theorem Nested.right (nested : Nested ((depth + 1) :: depths) lexemes) :
    Nested (depth :: depths) (lexemes ++ [rightParenthesis]) := by
  apply nested.concat (by decide)
  obtain ⟨front, opener, _, rfl, opens, inside, outer, inner, rfl, unclosed, interior⟩ :=
    nested.inside
  have closed : Interior (leftParenthesis :: inner ++ [rightParenthesis]) :=
    .parentheses interior .nil
  exact ⟨front, opener, outer ++ (leftParenthesis :: inner ++ [rightParenthesis]), by simp, opens,
    inside, unclosed.append closed⟩

/-- The closing delimiter closes the last opener that is not closed. -/
theorem Nested.closer (nested : Nested (0 :: depths) lexemes) :
    Nested depths (lexemes ++ [closingDelimiter]) := by
  obtain ⟨front, opener, inner, rfl, opens, inside, interior⟩ := nested.inside
  have closed : Interior (opener :: inner ++ [closingDelimiter]) :=
    .interpolation opens interior .nil
  constructor
  · rw [List.append_assoc]
    exact inside.append closed
  · exact nested.matched.concat fun _ => ⟨front, opener, inner, rfl, opens, interior⟩

end Brackets

/-! ## Frames -/

/-- From the outermost frame on, literals and interpolations take turns, and a literal comes
first. -/
def Alternates (frames : List Frame) : Prop :=
  ∀ place frame, frames.reverse[place]? = some frame → (frame = .string ↔ place % 2 = 0)

def Frame.depth? : Frame → Option Nat
  | .string => none
  | .interpolation depth => some depth

def Context.depths : Context → List Nat
  | .code depths | .string depths => depths

namespace Cursor

variable {source : Text} {localized : Bool} {cursor next : Cursor} {context : Context}
  {kind : Kind} {origin : Nat} {c : Char} {cs : Text}

theorem framesOf_code_cons (depth : Nat) (depths : List Nat) :
    framesOf (.code (depth :: depths)) = .interpolation depth :: framesOf (.string depths) := rfl

theorem framesOf_string (depths : List Nat) :
    framesOf (.string depths) = .string :: framesOf (.code depths) := rfl

theorem length_framesOf_code (depths : List Nat) :
    (framesOf (.code depths)).length = 2 * depths.length := by
  induction depths with
  | nil => rfl
  | cons depth depths ih =>
    rw [framesOf_code_cons, framesOf_string, List.length_cons, List.length_cons, List.length_cons,
      ih]
    omega

/-- One more frame that fits keeps the frames alternating. -/
theorem alternates_cons {frame : Frame} {frames : List Frame} (alternates : Alternates frames)
    (fits : frame = .string ↔ frames.length % 2 = 0) : Alternates (frame :: frames) := by
  intro place other found
  rw [List.reverse_cons] at found
  rcases Nat.lt_trichotomy place frames.length with inside | here | beyond
  · rw [List.getElem?_append_left (by simpa using inside)] at found
    exact alternates place other found
  · subst here
    obtain rfl : frame = other := by simpa using found
    exact fits
  · rw [List.getElem?_eq_none (by simp; omega)] at found
    cases found

theorem alternates_framesOf_code (depths : List Nat) : Alternates (framesOf (.code depths)) := by
  induction depths with
  | nil =>
    intro place frame found
    simp [framesOf] at found
  | cons depth depths ih =>
    have size := length_framesOf_code depths
    rw [framesOf_code_cons, framesOf_string]
    apply alternates_cons
    · apply alternates_cons ih
      simp only [true_iff]
      omega
    · simp only [reduceCtorEq, false_iff, List.length_cons]
      omega

theorem alternates_framesOf (context : Context) : Alternates (framesOf context) := by
  cases context with
  | code depths => exact alternates_framesOf_code depths
  | string depths =>
    have size := length_framesOf_code depths
    rw [framesOf_string]
    apply alternates_cons (alternates_framesOf_code depths)
    simp only [true_iff]
    omega

theorem filterMap_depth?_framesOf (context : Context) :
    (framesOf context).filterMap Frame.depth? = context.depths := by
  have code (depths : List Nat) :
      (framesOf (.code depths)).filterMap Frame.depth? = depths := by
    induction depths with
    | nil => rfl
    | cons depth depths ih => exact congrArg (depth :: ·) ih
  cases context with
  | code depths => exact code depths
  | string depths => exact code depths

/-! ## One turn -/

def recorded (cursor : Cursor) : List Lexeme :=
  cursor.tokens.map Token.lexeme

/-- The frames are those of a context, and its interpolations are the ones that are open in what was
recorded. -/
def Sound (cursor : Cursor) : Prop :=
  ∃ context, cursor.frames = framesOf context ∧ Nested context.depths cursor.recorded

theorem recorded_of_emit (emitted : cursor.emit source kind origin = .ok next) :
    next.recorded = cursor.recorded ++ [⟨kind, (source.take cursor.position).drop origin⟩] := by
  unfold emit Token.make at emitted
  simp only [ofName?_name] at emitted
  split at emitted
  · cases emitted
  · next token made =>
    split at made
    · obtain rfl := Except.ok.inj made
      obtain rfl := Except.ok.inj emitted
      simp [recorded]
    · cases made

theorem isPlain_of_kind {text : Text} (noDelimiter : kind ≠ .delimiter)
    (noPunctuation : kind ≠ .punctuation) : Lexeme.isPlain ⟨kind, text⟩ = true := by
  simp [Lexeme.isPlain, leftParenthesis, rightParenthesis, noDelimiter, noPunctuation]

/-- A lexeme that is no delimiter and no punctuation mark changes nothing. -/
theorem nested_of_emit {depths : List Nat} (nested : Nested depths cursor.recorded)
    (noDelimiter : kind ≠ .delimiter) (noPunctuation : kind ≠ .punctuation)
    (emitted : cursor.emit source kind origin = .ok next) : Nested depths next.recorded := by
  rw [recorded_of_emit emitted]
  exact nested.plain (isPlain_of_kind noDelimiter noPunctuation)

theorem nested_of_emitFragment {depths : List Nat} (nested : Nested depths cursor.recorded)
    (emitted : cursor.emitFragment source origin = .ok next) : Nested depths next.recorded := by
  unfold emitFragment at emitted
  split at emitted
  · exact nested_of_emit nested (by decide) (by decide) emitted
  · obtain rfl := Except.ok.inj emitted
    exact nested

/-- An opener is recorded as its two characters. -/
theorem opensInterpolation_take {input : Text} (opens : Literal.opensHere localized input = true) :
    Lexeme.opensInterpolation ⟨.delimiter, input.take 2⟩ = true := by
  cases input with
  | nil => cases opens
  | cons c cs =>
    obtain ⟨slash, tail, rfl⟩ := Literal.opener_eq opens
    rcases slash with rfl | ⟨-, rfl⟩ <;> simp [Lexeme.opensInterpolation]

/-- An opener leads into an interpolation without parentheses. -/
theorem opener_sound {depths : List Nat} (frames : cursor.frames = framesOf (.string depths))
    (nested : Nested depths cursor.recorded)
    (opens : Literal.opensHere localized (source.drop cursor.position) = true)
    (emitted : (cursor.advance 2).emit source .delimiter cursor.position = .ok next) :
    (next.push (.interpolation 0)).Sound := by
  have sameFrames : next.frames = framesOf (.string depths) := (emit_eq_ok emitted).2.trans frames
  refine ⟨.code (0 :: depths), ?_, ?_⟩
  · rw [framesOf_code_cons, ← sameFrames]
    rfl
  · have opener : (source.take (cursor.position + 2)).drop cursor.position =
        (source.drop cursor.position).take 2 := by
      rw [List.drop_take, Nat.add_sub_cancel_left]
    change Nested (0 :: depths) next.recorded
    rw [recorded_of_emit emitted]
    simp only [advance, opener]
    exact nested.opener (opensInterpolation_take opens)

/-- The end of a fragment leads into an interpolation or out of the literal. -/
theorem fragmentTurn_sound {depths : List Nat} (frames : cursor.frames = framesOf (.string depths))
    (nested : Nested depths cursor.recorded)
    (turned : cursor.fragmentTurn source localized origin = .ok next) : next.Sound := by
  have leaves {count : Nat} {left : Cursor} (popped : (cursor.advance count).pop = .ok left) :
      left.frames = framesOf (.code depths) ∧ Nested depths left.recorded := by
    have onString : (cursor.advance count).frames = framesOf (.string depths) := frames
    obtain rfl := Except.ok.inj ((pop_string onString).symm.trans popped)
    exact ⟨rfl, nested⟩
  have ahead : source.drop (cursor.position +
      (Literal.fragment localized (source.drop cursor.position)).cut.taken.length) =
      (Literal.fragment localized (source.drop cursor.position)).cut.rest := by
    have whole := Literal.whole_fragment localized (source.drop cursor.position)
    rw [← List.drop_drop]
    exact (congrArg (List.drop _) whole.symm).trans List.drop_left
  unfold fragmentTurn at turned
  dsimp only at turned
  generalize Literal.fragment localized (source.drop cursor.position) = fragment at turned ahead
  split at turned
  · obtain ⟨left, popped, emitted⟩ := bind_eq_ok.1 turned
    obtain ⟨outer, kept⟩ := leaves popped
    exact ⟨.code depths, (emit_eq_ok emitted).2.trans outer,
      nested_of_emit kept (by decide) (by decide) emitted⟩
  · split at turned
    · next opens =>
      obtain ⟨front, ended, turned⟩ := bind_eq_ok.1 turned
      obtain ⟨opened, emitted, turned⟩ := bind_eq_ok.1 turned
      obtain rfl := Except.ok.inj turned
      obtain ⟨position, sameFrames⟩ := emitFragment_eq_ok ended
      have before : Nested depths (cursor.advance fragment.cut.taken.length).recorded := nested
      have opensAhead : Literal.opensHere localized (source.drop front.position) = true := by
        rw [position]
        simpa only [advance, ahead] using opens
      rw [← position] at emitted
      exact opener_sound (sameFrames.trans frames) (nested_of_emitFragment before ended)
        opensAhead emitted
    · obtain ⟨left, popped, emitted⟩ := bind_eq_ok.1 turned
      obtain ⟨outer, kept⟩ := leaves popped
      exact ⟨.code depths, (emitFragment_eq_ok emitted).2.trans outer,
        nested_of_emitFragment kept emitted⟩

/-- A punctuation mark is recorded as its character. -/
theorem recorded_of_punctuation {frames : List Frame} (here : source.drop cursor.position = c :: cs)
    (emitted : emit source kind cursor.position
      { cursor.advance 1 with frames := frames } = .ok next) :
    next.frames = frames ∧ next.recorded = cursor.recorded ++ [⟨kind, [c]⟩] := by
  refine ⟨(emit_eq_ok emitted).2, ?_⟩
  have mark : (source.take (cursor.position + 1)).drop cursor.position = [c] := by
    rw [List.drop_take, Nat.add_sub_cancel_left, here]
    rfl
  rw [recorded_of_emit emitted]
  simp only [advance, mark]
  rfl

/-- A parenthesis is counted, and the one that closes the interpolation leads back into its
literal. -/
theorem punctuationTurn_sound {depths : List Nat} (frames : cursor.frames = framesOf (.code depths))
    (nested : Nested depths cursor.recorded) (here : source.drop cursor.position = c :: cs)
    (turned : cursor.punctuationTurn source c = .ok next) : next.Sound := by
  cases depths with
  | nil =>
    have stack : cursor.frames = [] := frames
    unfold punctuationTurn at turned
    simp only [stack] at turned
    have emitted : emit source .punctuation cursor.position
        { cursor.advance 1 with frames := cursor.frames } = .ok next := turned
    obtain ⟨sameFrames, added⟩ := recorded_of_punctuation here emitted
    refine ⟨.code [], sameFrames.trans frames, ?_⟩
    rw [added]
    exact nested.outside (by simp [closingDelimiter])
  | cons depth outer =>
    rw [framesOf_code_cons] at frames
    unfold punctuationTurn at turned
    simp only [frames] at turned
    split at turned
    · next opening =>
      obtain ⟨newFrames, added⟩ := recorded_of_punctuation here turned
      refine ⟨.code ((depth + 1) :: outer), newFrames, ?_⟩
      rw [added, opening]
      exact nested.left
    · next noOpening =>
      split at turned
      · next closing =>
        cases depth with
        | zero =>
          obtain ⟨left, popped, emitted⟩ := bind_eq_ok.1 turned
          have onTop : left = { cursor.advance 1 with frames := framesOf (.string outer) } := by
            unfold pop at popped
            simp only [advance, frames] at popped
            exact (Except.ok.inj popped).symm
          rw [onTop] at emitted
          obtain ⟨newFrames, added⟩ := recorded_of_punctuation here emitted
          refine ⟨.string outer, newFrames, ?_⟩
          rw [added, closing]
          exact nested.closer
        | succ inner =>
          obtain ⟨newFrames, added⟩ := recorded_of_punctuation here turned
          refine ⟨.code (inner :: outer), newFrames, ?_⟩
          rw [added, closing]
          exact nested.right
      · next noClosing =>
        have emitted : emit source .punctuation cursor.position
            { cursor.advance 1 with frames := cursor.frames } = .ok next := turned
        obtain ⟨sameFrames, added⟩ := recorded_of_punctuation here emitted
        refine ⟨.code (depth :: outer), sameFrames.trans frames, ?_⟩
        rw [added]
        apply nested.plain
        simp [Lexeme.isPlain, leftParenthesis, rightParenthesis, noOpening, noClosing]

/-- In code a turn keeps the cursor sound. -/
theorem codeTurn_sound {depths : List Nat} (frames : cursor.frames = framesOf (.code depths))
    (nested : Nested depths cursor.recorded) (here : source.drop cursor.position = c :: cs)
    (turned : cursor.codeTurn source localized c cs = .ok next) : next.Sound := by
  by_cases literal : Form.ofStart c cs = .literal
  · simp only [codeTurn, literal] at turned
    have inString : ((cursor.advance 1).push .string).frames = framesOf (.string depths) :=
      congrArg (Frame.string :: ·) frames
    exact fragmentTurn_sound inString nested turned
  by_cases punctuation : Form.ofStart c cs = .punctuation
  · simp only [codeTurn, punctuation] at turned
    exact punctuationTurn_sound frames nested here turned
  · rw [codeTurn_eq literal punctuation] at turned
    have kinds := codeStep_kind_mem localized [] c cs
    have noMark : (codeStep localized [] c cs).kind ≠ .delimiter ∧
        (codeStep localized [] c cs).kind ≠ .punctuation := by
      cases form : Form.ofStart c cs with
      | literal => exact absurd form literal
      | punctuation => exact absurd form punctuation
      | word =>
        simp only [form, Form.kinds, List.mem_cons, List.not_mem_nil, or_false] at kinds
        rcases kinds with kind | kind <;> simp [kind]
      | verbatim | lineComment | blockComment | blank | number | backslash | operator | escapedName
      | stray =>
        simp only [form, Form.kinds, List.mem_singleton] at kinds
        simp [kinds]
    have before : Nested depths
        (cursor.advance (codeStep localized [] c cs).cut.taken.length).recorded := nested
    exact ⟨.code depths, (emit_eq_ok turned).2.trans frames,
      nested_of_emit before noMark.1 noMark.2 turned⟩

/-- One turn keeps the cursor sound. -/
theorem Sound.turn (sound : cursor.Sound) (turned : cursor.turn source localized = .ok next) :
    next.Sound := by
  obtain ⟨context, frames, nested⟩ := sound
  unfold Cursor.turn at turned
  split at turned
  · obtain rfl := Except.ok.inj turned
    exact ⟨context, frames, nested⟩
  · next c cs here =>
    cases context with
    | code depths =>
      apply codeTurn_sound frames nested here
      cases depths with
      | nil => simpa [frames, framesOf] using turned
      | cons depth outer => simpa [frames, framesOf] using turned
    | string depths =>
      simp only [frames, framesOf_string] at turned
      exact fragmentTurn_sound frames nested turned

/-! ## Every point of a scan -/

/-- The cursors between the turns of a scan. -/
inductive Reached (source : Text) (localized : Bool) : Cursor → Prop
  | start : Reached source localized start
  | turn {cursor next : Cursor} : Reached source localized cursor →
      cursor.position < source.length → cursor.turn source localized = .ok next →
      Reached source localized next

/-- The cursors that a scan passes: those between two turns and, amid a turn, the one that has
entered a literal and has yet to read its first fragment. -/
inductive Passed (source : Text) (localized : Bool) : Cursor → Prop
  | between {cursor : Cursor} : Reached source localized cursor → Passed source localized cursor
  | entering {cursor : Cursor} {c : Char} {cs : Text} : Reached source localized cursor →
      cursor.frames.head? ≠ some .string → source.drop cursor.position = c :: cs →
      Form.ofStart c cs = .literal → Passed source localized ((cursor.advance 1).push .string)

/-- A run keeps the cursor sound. -/
theorem Reached.sound (reached : Reached source localized cursor) : cursor.Sound := by
  induction reached with
  | start => exact ⟨.top, rfl, nested_nil⟩
  | turn _ _ turned ih => exact ih.turn turned

theorem Passed.sound (passed : Passed source localized cursor) : cursor.Sound := by
  cases passed with
  | between reached => exact reached.sound
  | @entering cursor c cs reached outside here literal =>
    obtain ⟨context, frames, nested⟩ := reached.sound
    cases context with
    | code depths => exact ⟨.string depths, congrArg (Frame.string :: ·) frames, nested⟩
    | string depths => simp [frames, framesOf_string] at outside

/-- What the loop returns is what some cursor has recorded. -/
theorem Reached.exists_of_loop {tokens : List Token} (reached : Reached source localized cursor)
    (looped : loop source localized cursor = .ok tokens) :
    ∃ last, Reached source localized last ∧ last.tokens = tokens := by
  fun_induction loop source localized cursor with
  | case1 cursor inside halt turned => cases looped
  | case2 cursor inside next turned ih => exact ih (reached.turn inside turned) looped
  | case3 cursor outside => exact ⟨cursor, reached, Except.ok.inj looped⟩

end Cursor

/-- At every point of a scan the frames alternate, and the depths of the interpolations among them
are the numbers of parentheses that are open in each interpolation that what was recorded leaves
open. The delimiters of a scan are openers and closing parentheses; each of the latter closes the
last opener that is not closed, and the parentheses between the two are closed. -/
theorem interpolations_nest (localized : Bool) (source : Text) :
    (∀ cursor, Cursor.Passed source localized cursor →
      Alternates cursor.frames ∧
        Nested (cursor.frames.filterMap Frame.depth?) (cursor.tokens.map Token.lexeme)) ∧
    (∀ token ∈ scan localized source, token.lexeme.kind = .delimiter →
      token.lexeme.text = ['\\', '('] ∨ token.lexeme.text = [')'] ∨
        localized = true ∧ token.lexeme.text = ['/', '(']) ∧
    ClosersMatch ((scan localized source).map Token.lexeme) := by
  refine ⟨?_, ?_, ?_⟩
  · intro cursor passed
    obtain ⟨context, frames, nested⟩ := passed.sound
    rw [frames, Cursor.filterMap_depth?_framesOf]
    exact ⟨Cursor.alternates_framesOf context, nested⟩
  · intro token member delimiter
    have inScan : token.lexeme ∈ lexemes localized source := by
      rw [← map_lexeme_scan]
      exact List.mem_map_of_mem member
    have shaped : token.lexeme.Shaped localized := shaped_of_mem inScan
    rcases shaped.delimiter delimiter with primary | turned | closing
    · exact .inl primary
    · exact .inr (.inr turned)
    · exact .inr (.inl closing)
  · obtain ⟨last, reached, same⟩ := Cursor.Reached.start.exists_of_loop
      (Cursor.loop_start source localized)
    obtain ⟨context, -, nested⟩ := reached.sound
    rw [← same]
    exact nested.matched

/-- A literal that is cut off in an interpolation, behind a parenthesis. -/
def cutOffText : Text := ['"', '\\', '(', 'f', '(']

def cutOffCursor : Cursor where
  position := 5
  frames := [.interpolation 1, .string]
  tokens := Token.place 0 [⟨.stringLiteral, ['"']⟩, ⟨.delimiter, ['\\', '(']⟩, ⟨.identifier, ['f']⟩,
    ⟨.punctuation, ['(']⟩]

theorem passed_cutOffCursor : Cursor.Passed cutOffText false cutOffCursor := by
  have first : Cursor.Reached cutOffText false _ := .turn .start (by decide) rfl
  have second : Cursor.Reached cutOffText false _ := .turn first (by decide) rfl
  have third : Cursor.Reached cutOffText false cutOffCursor := .turn second (by decide) rfl
  exact .between third

theorem interpolations_nest_cutOff :
    Cursor.Passed cutOffText false cutOffCursor ∧ Alternates cutOffCursor.frames ∧
      Nested [1] (cutOffCursor.tokens.map Token.lexeme) :=
  ⟨passed_cutOffCursor, (interpolations_nest false cutOffText).1 cutOffCursor passed_cutOffCursor⟩

end Diglot
