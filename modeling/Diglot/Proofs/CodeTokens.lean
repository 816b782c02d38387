import Diglot.Proofs.NestedInterpolations

/-!
# Tokens of code

Where a scan stands in no plain literal, its next turn is a turn in code. Unless a plain literal
begins there or a punctuation mark stands there, the turn records one token and leaves the frames
as they are (`Reached.records`), so that a statement about what follows in the source is a statement
about the tokens of the scan.

Some of these tokens end with the first closer that counts, or with the source. `OnlyFront` says
this without the search: the token is the only front of what follows that has a form, or all that
follows if no front has it.
-/

set_option autoImplicit false

namespace Diglot

namespace Cursor

variable {source : Text} {localized : Bool} {cursor : Cursor} {c : Char} {cs : Text}

/-- The next turn records the lexeme as a token where the cursor stands, and moves behind it. The
token is the next one of the scan. -/
structure Records (source : Text) (localized : Bool) (cursor : Cursor) (lexeme : Lexeme) :
    Prop where
  turned : cursor.turn source localized =
    .ok ⟨cursor.position + lexeme.text.length, cursor.frames,
      cursor.tokens ++ Token.place cursor.position [lexeme]⟩
  scanned : cursor.tokens ++ Token.place cursor.position [lexeme] <+: scan localized source

/-- The lexeme is the one that the scan has behind the tokens of the cursor. -/
theorem Records.eq_of_scan {lexeme next : Lexeme} {later : List Lexeme}
    (records : Records source localized cursor lexeme)
    (scanned : scan localized source =
      cursor.tokens ++ Token.place cursor.position (next :: later)) : lexeme = next := by
  obtain ⟨tail, same⟩ := records.scanned
  rw [scanned, List.append_assoc, List.append_cancel_left_eq] at same
  exact congrArg Token.lexeme (List.cons.inj same).1

/-- A run keeps the cursor on track. -/
theorem Reached.onTrack (reached : Reached source localized cursor) :
    ∃ context, OnTrack source localized context cursor := by
  induction reached with
  | start => exact ⟨.top, Nat.zero_le _, rfl, rfl⟩
  | turn _ inside turned ih =>
    obtain ⟨context, onTrack⟩ := ih
    obtain ⟨next, after, ok, stays⟩ := turn_onTrack onTrack inside
    obtain rfl := Except.ok.inj (turned.symm.trans ok)
    exact ⟨after, stays⟩

/-- Outside of plain literals a scan stands in code, perhaps in that of an interpolation. -/
theorem Reached.onTrack_code (reached : Reached source localized cursor)
    (inCode : cursor.frames.head? ≠ some .string) :
    ∃ depths, OnTrack source localized (.code depths) cursor := by
  obtain ⟨context, onTrack⟩ := reached.onTrack
  cases context with
  | code depths => exact ⟨depths, onTrack⟩
  | string depths => simp [onTrack.frames, framesOf_string] at inCode

/-- A turn in code takes the lexeme that begins there. -/
theorem turn_of_code (inCode : cursor.frames.head? ≠ some .string)
    (here : source.drop cursor.position = c :: cs) :
    cursor.turn source localized = cursor.codeTurn source localized c cs := by
  simp only [turn, here]
  split
  · next frames => simp [frames] at inCode
  · rfl

/-- In code the next token is the lexeme that begins there. -/
theorem Reached.records (reached : Reached source localized cursor)
    (inCode : cursor.frames.head? ≠ some .string)
    (here : source.drop cursor.position = c :: cs) (noLiteral : Form.ofStart c cs ≠ .literal)
    (noPunctuation : Form.ofStart c cs ≠ .punctuation) :
    Records source localized cursor
      ⟨(codeStep localized [] c cs).kind, (codeStep localized [] c cs).cut.taken⟩ := by
  constructor
  · have split := here.trans (whole_codeStep localized [] c cs).symm
    rw [turn_of_code inCode here, codeTurn_eq noLiteral noPunctuation]
    exact emit_taken split rfl
  · obtain ⟨depths, onTrack⟩ := reached.onTrack_code inCode
    have tokens := onTrack.tokens
    have same : step localized (.code depths) c cs = _ :=
      codeStep_eq_outside noLiteral noPunctuation
    rw [here, lexemesFrom_cons, same, ← List.singleton_append, place_append,
      ← List.append_assoc] at tokens
    exact ⟨_, tokens⟩

end Cursor

/-! ## Fronts of a form -/

/-- The text is the only front of the input that has the form, or it is the whole input and no front
has the form. The form of a front may depend on what follows it. -/
inductive OnlyFront (form : Text → Text → Prop) (input text : Text) : Prop
  | found (rest : Text) : input = text ++ rest → form text rest →
      (∀ other more, input = other ++ more → form other more → other = text) →
      OnlyFront form input text
  | absent : text = input → (∀ other more, input = other ++ more → ¬form other more) →
      OnlyFront form input text

/-- A cut that agrees with every front of the form, and that takes everything where it finds none,
takes the only such front. -/
theorem onlyFront_of_cut {form : Text → Text → Prop} {input : Text} {cut : Cut}
    (whole : cut.whole = input)
    (agrees : ∀ text rest, input = text ++ rest → form text rest → cut = ⟨text, rest⟩)
    (finds : form cut.taken cut.rest ∨ cut.rest = []) : OnlyFront form input cut.taken := by
  rw [Cut.whole] at whole
  by_cases some_front : ∃ text rest, input = text ++ rest ∧ form text rest
  · obtain ⟨text, rest, split, formed⟩ := some_front
    obtain rfl := agrees text rest split formed
    refine .found rest split formed fun other more splitOther formedOther => ?_
    exact congrArg Cut.taken (agrees other more splitOther formedOther).symm
  · have none : ∀ other more, input = other ++ more → ¬form other more :=
      fun other more split formed => some_front ⟨other, more, split, formed⟩
    have ended : cut.rest = [] := finds.resolve_left (none _ _ whole.symm)
    rw [ended, List.append_nil] at whole
    exact .absent whole none

end Diglot
