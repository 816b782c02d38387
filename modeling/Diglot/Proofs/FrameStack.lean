import Diglot.Proofs.SteadySteps
import Diglot.Token

/-!
# The scanner as a loop over a stack of frames

Here the scanner is a loop that moves a position through the source and keeps the literals and
interpolations around it on a stack. One turn may record two tokens, and one turn may record none
and not move, when it only leaves a literal that ended with its line. Two things can go wrong in a
turn: taking a frame from the empty stack, and recording a token that is refused.

The loop ends because each turn moves on or makes the stack lower (`turn_progress`). Nothing goes
wrong, and it records the tokens of the scan (`loop_start`).
-/

set_option autoImplicit false

namespace Diglot

open Text (isNewline)

/-- What the scanner is inside of: the body of a plain literal, or an interpolation with the number
of its parentheses that are open. -/
inductive Frame
  | string
  | interpolation (depth : Nat)
  deriving DecidableEq, Repr

/-- What can go wrong in a turn. -/
inductive Halt
  | emptyStack
  | refused (invalid : Invalid)

/-- The scanner between two turns: its position, the frames around it with the innermost first, and
the tokens so far. -/
structure Cursor where
  position : Nat
  frames : List Frame
  tokens : List Token

namespace Cursor

def start : Cursor := ⟨0, [], []⟩

def advance (count : Nat) (cursor : Cursor) : Cursor :=
  { cursor with position := cursor.position + count }

def push (frame : Frame) (cursor : Cursor) : Cursor :=
  { cursor with frames := frame :: cursor.frames }

def pop (cursor : Cursor) : Except Halt Cursor :=
  match cursor.frames with
  | [] => .error .emptyStack
  | _ :: frames => .ok { cursor with frames := frames }

/-- Records the source from `start` to the position as a token. -/
def emit (source : Text) (kind : Kind) (start : Nat) (cursor : Cursor) : Except Halt Cursor :=
  let text := (source.take cursor.position).drop start
  match Token.make kind.name.toList text start cursor.position with
  | .error invalid => .error (.refused invalid)
  | .ok token => .ok { cursor with tokens := cursor.tokens ++ [token] }

/-- Records a fragment from `start` to the position, if there is any text in it. -/
def emitFragment (source : Text) (start : Nat) (cursor : Cursor) : Except Halt Cursor :=
  if start < cursor.position then cursor.emit source .stringLiteral start else .ok cursor

/-- Goes on in the body of a literal. The fragment that ends now has begun at `start`, and what
ends it is the closing quote, an opener, or the end of the line or of the text. -/
def fragmentTurn (source : Text) (localized : Bool) (start : Nat) (cursor : Cursor) :
    Except Halt Cursor :=
  let fragment := Literal.fragment localized (source.drop cursor.position)
  let reached := cursor.advance fragment.cut.taken.length
  if fragment.closed then do
    let left ← reached.pop
    left.emit source .stringLiteral start
  else if Literal.opensHere localized fragment.cut.rest then do
    let recorded ← reached.emitFragment source start
    let opened ← (recorded.advance 2).emit source .delimiter reached.position
    return opened.push (.interpolation 0)
  else do
    let left ← reached.pop
    left.emitFragment source start

/-- Takes a punctuation mark. An interpolation counts its parentheses, and is left where it is
closed. -/
def punctuationTurn (source : Text) (c : Char) (cursor : Cursor) : Except Halt Cursor :=
  let reached := cursor.advance 1
  match cursor.frames with
  | .interpolation depth :: outer =>
    if c = '(' then
      { reached with frames := .interpolation (depth + 1) :: outer }.emit source .punctuation
        cursor.position
    else if c = ')' then
      match depth with
      | 0 => do
        let left ← reached.pop
        left.emit source .delimiter cursor.position
      | inner + 1 =>
        { reached with frames := .interpolation inner :: outer }.emit source .punctuation
          cursor.position
    else reached.emit source .punctuation cursor.position
  | _ => reached.emit source .punctuation cursor.position

/-- Takes the lexeme that begins with `c` before `cs`. -/
def codeTurn (source : Text) (localized : Bool) (c : Char) (cs : Text) (cursor : Cursor) :
    Except Halt Cursor :=
  match Form.ofStart c cs with
  | .literal => fragmentTurn source localized cursor.position ((cursor.advance 1).push .string)
  | .punctuation => punctuationTurn source c cursor
  | _ =>
    let next := codeStep localized [] c cs
    (cursor.advance next.cut.taken.length).emit source next.kind cursor.position

def turn (source : Text) (localized : Bool) (cursor : Cursor) : Except Halt Cursor :=
  match source.drop cursor.position with
  | [] => .ok cursor
  | c :: cs =>
    match cursor.frames with
    | .string :: _ => cursor.fragmentTurn source localized cursor.position
    | _ => cursor.codeTurn source localized c cs

/-! ## Every turn makes progress -/

variable {source : Text} {localized : Bool} {cursor next : Cursor} {kind : Kind} {origin : Nat}

/-- The cursor has moved on, or it stands in fewer frames. -/
def Progress (before after : Cursor) : Prop :=
  before.position < after.position ∨
    after.position = before.position ∧ after.frames.length < before.frames.length

theorem bind_eq_ok {α β : Type} {first : Except Halt α} {second : α → Except Halt β} {result : β} :
    (first >>= second) = .ok result ↔ ∃ value, first = .ok value ∧ second value = .ok result := by
  cases first <;> simp [bind, Except.bind]

theorem pop_eq_ok (popped : cursor.pop = .ok next) :
    next.position = cursor.position ∧ next.frames.length < cursor.frames.length := by
  rw [pop] at popped
  split at popped
  · cases popped
  · next frame frames stack =>
    obtain rfl := Except.ok.inj popped
    exact ⟨rfl, by simp [stack]⟩

theorem emit_eq_ok (emitted : cursor.emit source kind origin = .ok next) :
    next.position = cursor.position ∧ next.frames = cursor.frames := by
  simp only [emit] at emitted
  split at emitted
  · cases emitted
  · obtain rfl := Except.ok.inj emitted
    exact ⟨rfl, rfl⟩

theorem emitFragment_eq_ok (emitted : cursor.emitFragment source origin = .ok next) :
    next.position = cursor.position ∧ next.frames = cursor.frames := by
  rw [emitFragment] at emitted
  split at emitted
  · exact emit_eq_ok emitted
  · obtain rfl := Except.ok.inj emitted
    exact ⟨rfl, rfl⟩

/-- A fragment moves the cursor, or the literal is left. -/
theorem fragmentTurn_progress (turned : cursor.fragmentTurn source localized origin = .ok next) :
    Progress cursor next := by
  simp only [fragmentTurn] at turned
  split at turned
  · next closed =>
    obtain ⟨left, popped, emitted⟩ := bind_eq_ok.1 turned
    have nonempty : (Literal.fragment localized (source.drop cursor.position)).cut.taken ≠ [] := by
      cases Literal.fragment_ends localized (source.drop cursor.position) with
      | closed _ nonempty _ => exact nonempty
      | atEnd isOpen _ _ => simp [isOpen] at closed
      | before isOpen _ _ => simp [isOpen] at closed
    have moved := List.length_pos_iff.2 nonempty
    have popPosition := (pop_eq_ok popped).1
    have emitPosition := (emit_eq_ok emitted).1
    simp only [advance] at popPosition
    exact .inl (by omega)
  · split at turned
    · obtain ⟨recorded, emittedFragment, turned⟩ := bind_eq_ok.1 turned
      obtain ⟨opened, emitted, turned⟩ := bind_eq_ok.1 turned
      obtain rfl := Except.ok.inj turned
      have fragmentPosition := (emitFragment_eq_ok emittedFragment).1
      have openerPosition := (emit_eq_ok emitted).1
      simp only [advance] at fragmentPosition openerPosition
      refine .inl ?_
      simp only [push]
      omega
    · obtain ⟨left, popped, emitted⟩ := bind_eq_ok.1 turned
      obtain ⟨popPosition, lower⟩ := pop_eq_ok popped
      obtain ⟨emitPosition, sameFrames⟩ := emitFragment_eq_ok emitted
      rw [← sameFrames] at lower
      simp only [advance] at popPosition lower
      rcases Nat.eq_zero_or_pos
        (Literal.fragment localized (source.drop cursor.position)).cut.taken.length with none | some
      · exact .inr ⟨by omega, lower⟩
      · exact .inl (by omega)

theorem punctuationTurn_position {c : Char}
    (turned : cursor.punctuationTurn source c = .ok next) :
    next.position = cursor.position + 1 := by
  simp only [punctuationTurn] at turned
  split at turned
  · split at turned
    · exact (emit_eq_ok turned).1
    · split at turned
      · split at turned
        · obtain ⟨left, popped, emitted⟩ := bind_eq_ok.1 turned
          exact (emit_eq_ok emitted).1.trans (pop_eq_ok popped).1
        · exact (emit_eq_ok turned).1
      · exact (emit_eq_ok turned).1
  · exact (emit_eq_ok turned).1

/-- In code every turn moves the cursor. -/
theorem codeTurn_position {c : Char} {cs : Text}
    (turned : cursor.codeTurn source localized c cs = .ok next) :
    cursor.position < next.position := by
  rw [codeTurn] at turned
  split at turned
  · have moved := fragmentTurn_progress turned
    simp only [Progress, push, advance] at moved
    omega
  · have moved := punctuationTurn_position turned
    omega
  · have moved := List.length_pos_iff.2 (codeStep_taken_ne_nil localized [] c cs)
    have emitPosition := (emit_eq_ok turned).1
    simp only [advance] at emitPosition
    omega

/-- A turn inside the source moves the cursor or makes the stack lower. -/
theorem turn_progress (inside : cursor.position < source.length)
    (turned : cursor.turn source localized = .ok next) : Progress cursor next := by
  rw [turn] at turned
  split at turned
  · next ended =>
    have outside := List.drop_eq_nil_iff.1 ended
    omega
  · split at turned
    · exact fragmentTurn_progress turned
    · exact .inl (codeTurn_position turned)

/-- Turn after turn, until the source is read or something goes wrong. -/
def loop (source : Text) (localized : Bool) (cursor : Cursor) : Except Halt (List Token) :=
  if _inside : cursor.position < source.length then
    match _turned : cursor.turn source localized with
    | .error halt => .error halt
    | .ok next => loop source localized next
  else .ok cursor.tokens
termination_by (source.length - cursor.position, cursor.frames.length)
decreasing_by
  rcases turn_progress _inside _turned with moved | ⟨same, lower⟩
  · exact Prod.Lex.left _ _ (by omega)
  · rw [same]
    exact Prod.Lex.right _ lower

/-! ## What the operations record -/

theorem ofName?_name (kind : Kind) : Kind.ofName? kind.name.toList = some kind := by
  cases kind <;> decide

/-- No token is refused whose text lies before the position. -/
theorem emit_taken {taken rest : Text} (here : source.drop origin = taken ++ rest)
    (reached : cursor.position = origin + taken.length) :
    cursor.emit source kind origin =
      .ok { cursor with tokens := cursor.tokens ++ Token.place origin [⟨kind, taken⟩] } := by
  have text : (source.take cursor.position).drop origin = taken := by
    rw [reached, List.drop_take, Nat.add_sub_cancel_left, here, List.take_left]
  have made : Token.make kind.name.toList taken origin cursor.position =
      .ok ⟨⟨kind, taken⟩, origin, cursor.position, by omega⟩ := by
    have ordered : (0 : Int) ≤ origin ∧ (origin : Int) ≤ cursor.position := by omega
    simp [Token.make, ofName?_name, ordered]
  simp only [emit, text, made, Token.place]
  simp only [reached]

/-- The lexemes that a fragment with this text makes. -/
def fragmentLexemes (text : Text) : List Lexeme :=
  if text.isEmpty then [] else [⟨.stringLiteral, text⟩]

theorem emitFragment_taken {taken rest : Text} (here : source.drop origin = taken ++ rest)
    (reached : cursor.position = origin + taken.length) :
    cursor.emitFragment source origin =
      .ok { cursor with
        tokens := cursor.tokens ++ Token.place origin (fragmentLexemes taken) } := by
  cases taken with
  | nil =>
    have level : ¬origin < cursor.position := by simp [reached]
    rw [emitFragment, if_neg level]
    simp [fragmentLexemes, Token.place]
  | cons c cs =>
    have behind : origin < cursor.position := by simp [reached]
    rw [emitFragment, if_pos behind, emit_taken here reached]
    rfl

theorem place_append (offset : Nat) (a b : List Lexeme) :
    Token.place offset (a ++ b) =
      Token.place offset a ++ Token.place (offset + (Lexeme.concat a).length) b := by
  induction a generalizing offset with
  | nil => simp [Token.place]
  | cons lexeme a ih => simp [Token.place, ih, Nat.add_assoc]

@[simp] theorem concat_fragmentLexemes (text : Text) :
    Lexeme.concat (fragmentLexemes text) = text := by
  cases text <;> simp [fragmentLexemes]

/-! ## The scan turn by turn -/

/-- The fragment of a literal and what follows it. -/
theorem lexemesFrom_fragment (depths : List Nat) (input : Text) :
    lexemesFrom localized (.string depths) input =
      fragmentLexemes (Literal.fragment localized input).cut.taken ++
        lexemesFrom localized (contextAfter (Literal.fragment localized input) depths)
          (Literal.fragment localized input).cut.rest := by
  cases input with
  | nil => rfl
  | cons c cs =>
    by_cases opens : Literal.opensHere localized (c :: cs) = true
    · rw [Literal.fragment_opener opens]
      rfl
    by_cases newline : isNewline c = true
    · rw [Literal.fragment_newline newline]
      rfl
    · have nonempty : (Literal.fragment localized (c :: cs)).cut.taken ≠ [] :=
        fragment_taken_ne_nil (by simpa using opens) (by simpa using newline)
      rw [lexemesFrom_cons, fragmentLexemes, if_neg (by simpa using nonempty)]
      simp only [step, stringStep, opens, newline, if_false, Bool.false_eq_true]
      rfl

theorem lexemesFrom_opener (depths : List Nat) {input : Text}
    (opens : Literal.opensHere localized input = true) :
    input = input.take 2 ++ input.drop 2 ∧ (input.take 2).length = 2 ∧
      lexemesFrom localized (.string depths) input =
        ⟨.delimiter, input.take 2⟩ ::
          lexemesFrom localized (.code (0 :: depths)) (input.drop 2) := by
  obtain ⟨c, cs, rfl⟩ := exists_cons_cons (Literal.opensHere_iff.1 opens).2
  refine ⟨rfl, rfl, ?_⟩
  rw [lexemesFrom_cons]
  simp only [step, stringStep, opens, if_true]
  rfl

/-- Where a fragment ends with its line or with the text, the scan goes on as in the code around. -/
theorem lexemesFrom_unclosed (depths : List Nat) (input : Text)
    (isOpen : (Literal.fragment localized input).closed = false)
    (noOpener : Literal.opensHere localized (Literal.fragment localized input).cut.rest = false) :
    lexemesFrom localized (.string depths) (Literal.fragment localized input).cut.rest =
      lexemesFrom localized (.code depths) (Literal.fragment localized input).cut.rest := by
  cases Literal.fragment_ends localized input with
  | closed closed _ _ => simp [closed] at isOpen
  | atEnd _ atEnd _ => rw [atEnd, lexemesFrom_nil, lexemesFrom_nil]
  | before _ stops _ =>
    obtain ⟨c, cs, rest, newline⟩ := stops.resolve_left (by simp [noOpener])
    rw [rest] at noOpener ⊢
    rw [lexemesFrom_cons, lexemesFrom_cons]
    simp only [step, stringStep, noOpener, newline, if_true, if_false, Bool.false_eq_true]

/-- The frames of a context. Every interpolation is inside a literal. -/
def framesOf : Context → List Frame
  | .code depths => depths.flatMap fun depth => [.interpolation depth, .string]
  | .string depths => .string :: depths.flatMap fun depth => [.interpolation depth, .string]

/-- The tokens so far, and those that the scan finds from here on, are the tokens of the source. -/
structure OnTrack (source : Text) (localized : Bool) (context : Context) (cursor : Cursor) :
    Prop where
  inside : cursor.position ≤ source.length
  frames : cursor.frames = framesOf context
  tokens : cursor.tokens ++ Token.place cursor.position
    (lexemesFrom localized context (source.drop cursor.position)) = scan localized source

theorem drop_advance {taken rest : Text} {position : Nat}
    (inside : position ≤ source.length) (here : source.drop position = taken ++ rest) :
    source.drop (position + taken.length) = rest ∧ position + taken.length ≤ source.length := by
  have size := congrArg List.length here
  rw [List.length_drop, List.length_append] at size
  refine ⟨?_, by omega⟩
  rw [← List.drop_drop, here, List.drop_left]

theorem pop_string {depths : List Nat} (frames : cursor.frames = framesOf (.string depths)) :
    cursor.pop = .ok { cursor with frames := framesOf (.code depths) } := by
  rw [pop, frames]
  rfl

/-- The opener is recorded and its interpolation entered. -/
theorem OnTrack.emit_opener {depths : List Nat}
    (onTrack : OnTrack source localized (.string depths) cursor)
    (opens : Literal.opensHere localized (source.drop cursor.position) = true) :
    ∃ next, (do
        let opened ← (cursor.advance 2).emit source .delimiter cursor.position
        return opened.push (.interpolation 0)) = Except.ok next ∧
      OnTrack source localized (.code (0 :: depths)) next := by
  obtain ⟨opener, two, scanned⟩ := lexemesFrom_opener depths opens
  obtain ⟨ahead, inside⟩ := drop_advance onTrack.inside opener
  have emitted : (cursor.advance 2).emit source .delimiter cursor.position =
      .ok ⟨cursor.position + 2, cursor.frames, cursor.tokens ++
        Token.place cursor.position [⟨.delimiter, (source.drop cursor.position).take 2⟩]⟩ :=
    emit_taken opener (by rw [two]; rfl)
  have tokens := onTrack.tokens
  rw [scanned, ← List.singleton_append, place_append, ← List.append_assoc] at tokens
  rw [two] at ahead inside
  refine ⟨_, bind_eq_ok.2 ⟨_, emitted, rfl⟩, inside, ?_, ?_⟩
  · simp only [push, onTrack.frames]
    rfl
  · simp only [push, ahead]
    simpa [Lexeme.concat, two] using tokens

/-- The turn that ends a fragment keeps the cursor on track. -/
theorem fragmentTurn_onTrack {depths : List Nat} {front input : Text}
    (frames : cursor.frames = framesOf (.string depths))
    (inside : cursor.position ≤ source.length)
    (here : source.drop origin = front ++ input)
    (reached : cursor.position = origin + front.length)
    (tokens : cursor.tokens ++ Token.place origin
      (fragmentLexemes (front ++ (Literal.fragment localized input).cut.taken) ++
        lexemesFrom localized (contextAfter (Literal.fragment localized input) depths)
          (Literal.fragment localized input).cut.rest) = scan localized source) :
    ∃ next context, cursor.fragmentTurn source localized origin = .ok next ∧
      OnTrack source localized context next := by
  have atCursor : source.drop cursor.position = input := by
    rw [reached, ← List.drop_drop, here, List.drop_left]
  have ends := Literal.fragment_ends localized input
  have unclosed : (Literal.fragment localized input).closed = false →
      Literal.opensHere localized (Literal.fragment localized input).cut.rest = false →
      lexemesFrom localized (.string depths) (Literal.fragment localized input).cut.rest =
        lexemesFrom localized (.code depths) (Literal.fragment localized input).cut.rest :=
    lexemesFrom_unclosed depths input
  rcases split : Literal.fragment localized input with ⟨⟨taken, rest⟩, closed⟩
  have whole : taken ++ rest = input := by
    have whole := Literal.whole_fragment localized input
    rwa [split] at whole
  rw [split] at tokens unclosed ends
  dsimp only at tokens unclosed
  obtain ⟨ahead, insideAhead⟩ := drop_advance inside (atCursor.trans whole.symm)
  have behind : source.drop origin = (front ++ taken) ++ rest := by
    rw [here, ← whole, List.append_assoc]
  have arrived : cursor.position + taken.length = origin + (front ++ taken).length := by
    rw [reached, List.length_append, Nat.add_assoc]
  rw [place_append, concat_fragmentLexemes, ← arrived, ← List.append_assoc] at tokens
  have popped : (cursor.advance taken.length).pop =
      .ok ⟨cursor.position + taken.length, framesOf (.code depths), cursor.tokens⟩ :=
    pop_string frames
  simp only [fragmentTurn, atCursor, split]
  cases closed with
  | true =>
    have nonempty : front ++ taken ≠ [] := by
      cases ends with
      | closed _ nonempty _ => exact List.append_ne_nil_of_right_ne_nil _ nonempty
      | atEnd isOpen _ _ | before isOpen _ _ => simp at isOpen
    rw [fragmentLexemes, if_neg (by simpa using nonempty)] at tokens
    rw [if_pos rfl, popped]
    exact ⟨_, .code depths, emit_taken behind arrived, insideAhead, rfl, by rwa [ahead]⟩
  | false =>
    rw [if_neg (by simp)]
    cases opens : Literal.opensHere localized rest with
    | true =>
      have recorded : (cursor.advance taken.length).emitFragment source origin =
          .ok ⟨cursor.position + taken.length, cursor.frames,
            cursor.tokens ++ Token.place origin (fragmentLexemes (front ++ taken))⟩ :=
        emitFragment_taken behind arrived
      have onTrack : OnTrack source localized (.string depths)
          ⟨cursor.position + taken.length, cursor.frames,
            cursor.tokens ++ Token.place origin (fragmentLexemes (front ++ taken))⟩ :=
        ⟨insideAhead, frames, by rw [ahead]; exact tokens⟩
      obtain ⟨next, opened, stays⟩ := onTrack.emit_opener (by rw [ahead]; exact opens)
      rw [if_pos rfl]
      exact ⟨next, _, bind_eq_ok.2 ⟨_, recorded, opened⟩, stays⟩
    | false =>
      rw [if_neg (by simp), popped]
      have closes := unclosed rfl opens
      refine ⟨_, .code depths, emitFragment_taken behind arrived, insideAhead, rfl, ?_⟩
      rw [ahead, ← closes]
      exact tokens

variable {context : Context} {c : Char} {cs : Text}

/-- The next lexeme is recorded as it is, and the cursor stays on track. -/
theorem OnTrack.emit_step (onTrack : OnTrack source localized context cursor)
    (here : source.drop cursor.position = c :: cs) :
    ∃ next, Cursor.emit source (step localized context c cs).kind cursor.position
        ⟨cursor.position + (step localized context c cs).cut.taken.length,
          framesOf (step localized context c cs).context, cursor.tokens⟩ = .ok next ∧
      OnTrack source localized (step localized context c cs).context next := by
  have whole := whole_step localized context c cs
  have split := here.trans whole.symm
  obtain ⟨ahead, inside⟩ := drop_advance onTrack.inside split
  have tokens := onTrack.tokens
  rw [here, lexemesFrom_cons] at tokens
  refine ⟨_, emit_taken split rfl, inside, rfl, ?_⟩
  rw [ahead]
  simpa [Token.place] using tokens

/-- A punctuation mark. -/
theorem punctuationTurn_onTrack {depths : List Nat}
    (onTrack : OnTrack source localized (.code depths) cursor)
    (here : source.drop cursor.position = c :: cs) (form : Form.ofStart c cs = .punctuation) :
    ∃ next context, cursor.punctuationTurn source c = .ok next ∧
      OnTrack source localized context next := by
  obtain ⟨next, emitted, stays⟩ := onTrack.emit_step here
  have stepped : step localized (.code depths) c cs = punctuationStep depths c cs := by
    simp only [step, codeStep, form]
  rw [stepped, whole_punctuationStep] at emitted
  refine ⟨next, _, ?_, stays⟩
  rw [← emitted]
  rcases cursor with ⟨position, frames, tokens⟩
  obtain rfl : frames = framesOf (.code depths) := onTrack.frames
  cases depths with
  | nil => rfl
  | cons depth outer =>
    have stack : framesOf (.code (depth :: outer)) =
        .interpolation depth :: framesOf (.string outer) := rfl
    by_cases opening : c = '('
    · subst opening
      rfl
    by_cases closing : c = ')'
    · subst closing
      cases depth <;> rfl
    · simp only [punctuationTurn, punctuationStep, stack, opening, closing, if_false]
      rfl

/-- A lexeme that is no plain literal and no punctuation mark does not depend on the
interpolations around it. -/
theorem codeStep_eq_outside {depths : List Nat} (noLiteral : Form.ofStart c cs ≠ .literal)
    (noPunctuation : Form.ofStart c cs ≠ .punctuation) :
    codeStep localized depths c cs =
      ⟨(codeStep localized [] c cs).kind, (codeStep localized [] c cs).cut, .code depths⟩ := by
  cases form : Form.ofStart c cs <;> simp_all [codeStep]

theorem codeTurn_eq (noLiteral : Form.ofStart c cs ≠ .literal)
    (noPunctuation : Form.ofStart c cs ≠ .punctuation) :
    cursor.codeTurn source localized c cs =
      (cursor.advance (codeStep localized [] c cs).cut.taken.length).emit source
        (codeStep localized [] c cs).kind cursor.position := by
  rw [codeTurn]
  split
  · contradiction
  · contradiction
  · rfl

/-- In code a turn keeps the cursor on track. -/
theorem codeTurn_onTrack {depths : List Nat}
    (onTrack : OnTrack source localized (.code depths) cursor)
    (here : source.drop cursor.position = c :: cs) :
    ∃ next context, cursor.codeTurn source localized c cs = .ok next ∧
      OnTrack source localized context next := by
  have begins := Form.begins c cs
  by_cases literal : Form.ofStart c cs = .literal
  · rw [literal] at begins
    obtain ⟨rfl, -⟩ := begins
    obtain ⟨-, inside⟩ := drop_advance onTrack.inside (here.trans (List.singleton_append).symm)
    have tokens := onTrack.tokens
    rw [here, lexemesFrom_cons] at tokens
    simp only [step, codeStep, literal] at tokens
    have quoted : source.drop cursor.position = ['"'] ++ cs := here
    simp only [codeTurn, literal]
    exact fragmentTurn_onTrack (congrArg (Frame.string :: ·) onTrack.frames) inside quoted rfl
      tokens
  by_cases punctuation : Form.ofStart c cs = .punctuation
  · simp only [codeTurn, punctuation]
    exact punctuationTurn_onTrack onTrack here punctuation
  · obtain ⟨next, emitted, stays⟩ := onTrack.emit_step here
    have same : step localized (.code depths) c cs = _ := codeStep_eq_outside literal punctuation
    rw [same] at emitted
    refine ⟨next, _, ?_, stays⟩
    rw [codeTurn_eq literal punctuation, ← emitted, ← onTrack.frames]
    rfl

/-- A turn inside the source goes well and keeps the cursor on track. -/
theorem turn_onTrack (onTrack : OnTrack source localized context cursor)
    (inside : cursor.position < source.length) :
    ∃ next context, cursor.turn source localized = .ok next ∧
      OnTrack source localized context next := by
  have ahead : source.drop cursor.position ≠ [] := by
    rw [ne_eq, List.drop_eq_nil_iff]
    omega
  obtain ⟨c, cs, here⟩ := List.exists_cons_of_ne_nil ahead
  cases context with
  | code depths =>
    have code : cursor.turn source localized = cursor.codeTurn source localized c cs := by
      simp only [turn, here, onTrack.frames]
      cases depths <;> rfl
    rw [code]
    exact codeTurn_onTrack onTrack here
  | string depths =>
    have string : cursor.turn source localized =
        cursor.fragmentTurn source localized cursor.position := by
      simp only [turn, here, onTrack.frames, framesOf]
    have tokens := onTrack.tokens
    rw [lexemesFrom_fragment] at tokens
    rw [string]
    exact fragmentTurn_onTrack onTrack.frames onTrack.inside (List.nil_append _).symm rfl tokens

/-- From a cursor on track, the loop returns the tokens of the scan. -/
theorem loop_onTrack (onTrack : OnTrack source localized context cursor) :
    loop source localized cursor = .ok (scan localized source) := by
  fun_induction loop source localized cursor generalizing context with
  | case1 cursor inside halt turned =>
    obtain ⟨next, _, ok, -⟩ := turn_onTrack onTrack inside
    rw [ok] at turned
    cases turned
  | case2 cursor inside next turned ih =>
    obtain ⟨reached, _, ok, stays⟩ := turn_onTrack onTrack inside
    rw [ok] at turned
    obtain rfl := Except.ok.inj turned
    exact ih stays
  | case3 cursor outside =>
    have ended : source.drop cursor.position = [] := List.drop_eq_nil_iff.2 (by omega)
    have tokens := onTrack.tokens
    rw [ended, lexemesFrom_nil, Token.place, List.append_nil] at tokens
    rw [tokens]

/-- The loop ends, nothing goes wrong in it, and it returns the tokens of the scan. -/
theorem loop_start (source : Text) (localized : Bool) :
    loop source localized start = .ok (scan localized source) := by
  have onTrack : OnTrack source localized .top start := ⟨Nat.zero_le _, rfl, rfl⟩
  exact loop_onTrack onTrack

end Cursor

end Diglot
