import Diglot.Proofs.NestedInterpolations

/-!
# Scans that start again

A turn of the scanner's loop sees its source only from its position on, and of what it did before
it keeps the frames alone. So a run on the rest of a source is matched, turn by turn, by a run on
the whole source that starts where the rest does, in the same frames (`turn_shift`, `loop_shift`).

In particular a scan can be broken off wherever no frame is left open, and started again there
(`scan_restarts`).
-/

set_option autoImplicit false

namespace Diglot

/-- The token in a source that has `offset` more characters in front. -/
def Token.shift (offset : Nat) (token : Token) : Token where
  lexeme := token.lexeme
  start := token.start + offset
  stop := token.stop + offset
  start_le_stop := Nat.add_le_add_right token.start_le_stop offset

namespace Cursor

variable {source : Text} {localized : Bool} {cursor next : Cursor} {kind : Kind}
  {offset origin : Nat} {earlier : List Token}

/-- The cursor in a source that has `offset` more characters in front, from which the tokens
`earlier` were recorded. -/
def shift (offset : Nat) (earlier : List Token) (cursor : Cursor) : Cursor where
  position := cursor.position + offset
  frames := cursor.frames
  tokens := earlier ++ cursor.tokens.map (Token.shift offset)

/-! ## One turn -/

theorem drop_shift (source : Text) (offset position : Nat) :
    source.drop (position + offset) = (source.drop offset).drop position := by
  rw [List.drop_drop, Nat.add_comm]

theorem pop_shift (popped : cursor.pop = .ok next) :
    (cursor.shift offset earlier).pop = .ok (next.shift offset earlier) := by
  unfold pop at popped ⊢
  simp only [shift]
  split at popped
  · cases popped
  · cases popped
    rfl

/-- What is recorded from the rest is the same piece of the whole source. -/
theorem emit_shift (emitted : cursor.emit (source.drop offset) kind origin = .ok next) :
    (cursor.shift offset earlier).emit source kind (origin + offset) =
      .ok (next.shift offset earlier) := by
  have sameText : (source.take (cursor.position + offset)).drop (origin + offset) =
      ((source.drop offset).take cursor.position).drop origin := by
    rw [drop_shift, List.take_drop, Nat.add_comm]
  unfold emit Token.make at emitted ⊢
  simp only [ofName?_name, shift, sameText] at emitted ⊢
  by_cases ordered : 0 ≤ (origin : Int) ∧ (origin : Int) ≤ cursor.position
  · have shifted : 0 ≤ ((origin + offset : Nat) : Int) ∧
        ((origin + offset : Nat) : Int) ≤ (cursor.position + offset : Nat) := by omega
    rw [dif_pos ordered] at emitted
    rw [dif_pos shifted]
    cases emitted
    simp only [Token.shift, List.map_append, List.map_cons, List.map_nil, List.append_assoc,
      Int.toNat_natCast]
  · rw [dif_neg ordered] at emitted
    cases emitted

theorem emitFragment_shift
    (emitted : cursor.emitFragment (source.drop offset) origin = .ok next) :
    (cursor.shift offset earlier).emitFragment source (origin + offset) =
      .ok (next.shift offset earlier) := by
  unfold emitFragment at emitted ⊢
  have samePlace : origin + offset < (cursor.shift offset earlier).position ↔
      origin < cursor.position := by
    simp only [shift]
    omega
  simp only [samePlace]
  split at emitted
  · next behind =>
    rw [if_pos behind]
    exact emit_shift emitted
  · next level =>
    rw [if_neg level]
    cases emitted
    rfl

theorem advance_shift (count : Nat) :
    (cursor.shift offset earlier).advance count = (cursor.advance count).shift offset earlier := by
  simp only [advance, shift, Nat.add_right_comm]

/-- The fragment of a literal ends alike, whatever stands before the rest. -/
theorem fragmentTurn_shift
    (turned : cursor.fragmentTurn (source.drop offset) localized origin = .ok next) :
    (cursor.shift offset earlier).fragmentTurn source localized (origin + offset) =
      .ok (next.shift offset earlier) := by
  have samePlace : source.drop (cursor.shift offset earlier).position =
      (source.drop offset).drop cursor.position := drop_shift source offset cursor.position
  unfold fragmentTurn at turned ⊢
  simp only [samePlace, advance_shift] at turned ⊢
  generalize Literal.fragment localized ((source.drop offset).drop cursor.position) = fragment
    at turned ⊢
  split at turned
  · next closed =>
    obtain ⟨left, popped, emitted⟩ := bind_eq_ok.1 turned
    rw [if_pos closed]
    exact bind_eq_ok.2 ⟨_, pop_shift popped, emit_shift emitted⟩
  · next isOpen =>
    rw [if_neg isOpen]
    split at turned
    · next opens =>
      obtain ⟨recorded, emittedFragment, turned⟩ := bind_eq_ok.1 turned
      obtain ⟨opened, emitted, turned⟩ := bind_eq_ok.1 turned
      cases turned
      rw [if_pos opens]
      refine bind_eq_ok.2 ⟨_, emitFragment_shift emittedFragment, ?_⟩
      rw [advance_shift]
      exact bind_eq_ok.2 ⟨_, emit_shift emitted, rfl⟩
    · next noOpener =>
      obtain ⟨left, popped, emitted⟩ := bind_eq_ok.1 turned
      rw [if_neg noOpener]
      exact bind_eq_ok.2 ⟨_, pop_shift popped, emitFragment_shift emitted⟩

/-- A punctuation mark is counted in the same frames. -/
theorem punctuationTurn_shift {c : Char}
    (turned : cursor.punctuationTurn (source.drop offset) c = .ok next) :
    (cursor.shift offset earlier).punctuationTurn source c =
      .ok (next.shift offset earlier) := by
  have counted {frames : List Frame} {mark : Kind}
      (emitted : emit (source.drop offset) mark cursor.position
        { cursor.advance 1 with frames := frames } = .ok next) :
      emit source mark (cursor.position + offset)
        { (cursor.advance 1).shift offset earlier with frames := frames } =
        .ok (next.shift offset earlier) := emit_shift emitted
  unfold punctuationTurn at turned ⊢
  simp only [advance_shift] at turned ⊢
  rcases stack : cursor.frames with _ | ⟨_ | depth, outer⟩
  all_goals
    have sameStack : (cursor.shift offset earlier).frames = cursor.frames := rfl
    rw [stack] at sameStack
    simp only [stack, sameStack] at turned ⊢
  · exact emit_shift turned
  · exact emit_shift turned
  · split at turned
    · next opening =>
      rw [if_pos opening]
      exact counted turned
    · next noOpening =>
      rw [if_neg noOpening]
      split at turned
      · next closing =>
        rw [if_pos closing]
        cases depth with
        | zero =>
          obtain ⟨left, popped, emitted⟩ := bind_eq_ok.1 turned
          exact bind_eq_ok.2 ⟨_, pop_shift popped, emit_shift emitted⟩
        | succ inner => exact counted turned
      · next noClosing =>
        rw [if_neg noClosing]
        exact emit_shift turned

theorem codeTurn_shift {c : Char} {cs : Text}
    (turned : cursor.codeTurn (source.drop offset) localized c cs = .ok next) :
    (cursor.shift offset earlier).codeTurn source localized c cs =
      .ok (next.shift offset earlier) := by
  by_cases literal : Form.ofStart c cs = .literal
  · simp only [codeTurn, literal] at turned ⊢
    rw [advance_shift]
    exact fragmentTurn_shift turned
  by_cases punctuation : Form.ofStart c cs = .punctuation
  · simp only [codeTurn, punctuation] at turned ⊢
    exact punctuationTurn_shift turned
  · rw [codeTurn_eq literal punctuation] at turned ⊢
    rw [advance_shift]
    exact emit_shift turned

/-- A turn on the rest of a source is a turn on the source. -/
theorem turn_shift (turned : cursor.turn (source.drop offset) localized = .ok next) :
    (cursor.shift offset earlier).turn source localized = .ok (next.shift offset earlier) := by
  have samePlace : source.drop (cursor.shift offset earlier).position =
      (source.drop offset).drop cursor.position := drop_shift source offset cursor.position
  have sameStack : (cursor.shift offset earlier).frames = cursor.frames := rfl
  unfold turn at turned ⊢
  rw [samePlace, sameStack]
  split at turned
  · cases turned
    rfl
  · split at turned
    · exact fragmentTurn_shift turned
    · exact codeTurn_shift turned

/-! ## A whole run -/

/-- A turn that goes well is the beginning of the run. -/
theorem loop_of_turn (inside : cursor.position < source.length)
    (turned : cursor.turn source localized = .ok next) :
    loop source localized cursor = loop source localized next := by
  rw [loop, dif_pos inside]
  split
  · next failed => simp [turned] at failed
  · next ok =>
    rw [turned] at ok
    cases ok
    rfl

/-- A run on the rest of a source is a run on the source, with the tokens in their places there. -/
theorem loop_shift {tokens : List Token}
    (looped : loop (source.drop offset) localized cursor = .ok tokens) :
    loop source localized (cursor.shift offset earlier) =
      .ok (earlier ++ tokens.map (Token.shift offset)) := by
  fun_induction loop (source.drop offset) localized cursor with
  | case1 cursor inside halt turned => cases looped
  | case2 cursor inside next turned ih =>
    rw [List.length_drop] at inside
    have insideSource : (cursor.shift offset earlier).position < source.length := by
      simp only [shift]
      omega
    rw [loop_of_turn insideSource (turn_shift turned)]
    exact ih looped
  | case3 cursor outside =>
    rw [List.length_drop] at outside
    have outsideSource : ¬(cursor.shift offset earlier).position < source.length := by
      simp only [shift]
      omega
    rw [loop, dif_neg outsideSource]
    cases looped
    rfl

/-- From every cursor that a scan reaches, the run goes on to the tokens of the scan. -/
theorem Reached.loop_eq (reached : Reached source localized cursor) :
    loop source localized cursor = .ok (scan localized source) := by
  induction reached with
  | start => exact loop_start source localized
  | turn _ inside turned ih =>
    rw [← loop_of_turn inside turned]
    exact ih

end Cursor

/-- Wherever a scan stands in no frame, what it still finds are the tokens of the rest of the source
by itself, in their places in the source. -/
theorem scan_restarts (localized : Bool) (source : Text) (cursor : Cursor)
    (reached : Cursor.Reached source localized cursor) (outside : cursor.frames = []) :
    scan localized source = cursor.tokens ++
      (scan localized (source.drop cursor.position)).map (Token.shift cursor.position) := by
  have restarted : Cursor.start.shift cursor.position cursor.tokens = cursor := by
    rcases cursor with ⟨position, frames, tokens⟩
    cases outside
    simp [Cursor.shift, Cursor.start]
  have rest := Cursor.loop_start (source.drop cursor.position) localized
  have whole : Cursor.loop source localized (Cursor.start.shift cursor.position cursor.tokens) =
      .ok (cursor.tokens ++
        (scan localized (source.drop cursor.position)).map (Token.shift cursor.position)) :=
    Cursor.loop_shift rest
  rw [restarted, reached.loop_eq] at whole
  exact Except.ok.inj whole

def twoLines : Text := ['"', 'a', '\n', '"', '\\', '(', 'b', ')', '"']

def lineEnd : Cursor where
  position := 2
  frames := []
  tokens := Token.place 0 [⟨.stringLiteral, ['"', 'a']⟩]

theorem scan_restarts_lineEnd :
    Cursor.Reached twoLines false lineEnd ∧
      scan false twoLines = lineEnd.tokens ++
        (scan false ['\n', '"', '\\', '(', 'b', ')', '"']).map (Token.shift 2) := by
  have reached : Cursor.Reached twoLines false lineEnd := .turn .start (by decide) rfl
  exact ⟨reached, scan_restarts false twoLines lineEnd reached rfl⟩

end Diglot
