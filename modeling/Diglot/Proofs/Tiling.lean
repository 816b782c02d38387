import Diglot.Proofs.FrameStack
import Diglot.Proofs.LexemeShapes
import Mathlib.Data.List.Chain

/-!
# Tokens tile their source

The tokens of a scan stand side by side and cover the source from its first to its last character.
The scanner's loop always gets that far (`scan_tiles`).
-/

set_option autoImplicit false

namespace Diglot

/-- The tokens stand side by side from the start of the source to its end, and each is a piece of
the source that is not empty. -/
structure Tiles (source : Text) (tokens : List Token) : Prop where
  eq_nil_iff : tokens = [] ↔ source = []
  first : ∀ token ∈ tokens.head?, token.start = 0
  adjacent : tokens.IsChain fun token next => next.start = token.stop
  last : ∀ token ∈ tokens.getLast?, token.stop = source.length
  nonempty : ∀ token ∈ tokens, token.start < token.stop
  text : ∀ token ∈ tokens, token.lexeme.text = (source.take token.stop).drop token.start

namespace Token

variable {offset : Nat} {lexemes : List Lexeme} {token : Token}

theorem start_of_head?_place (first : token ∈ (place offset lexemes).head?) :
    token.start = offset := by
  cases lexemes with
  | nil => simp [place] at first
  | cons lexeme lexemes =>
    obtain rfl : _ = token := by simpa [place] using first
    rfl

theorem place_adjacent (offset : Nat) (lexemes : List Lexeme) :
    (place offset lexemes).IsChain fun token next => next.start = token.stop := by
  induction lexemes generalizing offset with
  | nil => exact .nil
  | cons lexeme lexemes ih =>
    rw [place, List.isChain_cons]
    refine ⟨fun next first => ?_, ih (offset + lexeme.text.length)⟩
    exact start_of_head?_place first

theorem stop_of_getLast?_place (last : token ∈ (place offset lexemes).getLast?) :
    token.stop = offset + (Lexeme.concat lexemes).length := by
  induction lexemes generalizing offset with
  | nil => simp [place] at last
  | cons lexeme lexemes ih =>
    cases lexemes with
    | nil =>
      obtain rfl : _ = token := by simpa [place] using last
      simp
    | cons second lexemes =>
      have later : token ∈ (place (offset + lexeme.text.length) (second :: lexemes)).getLast? := by
        simpa [place] using last
      rw [ih later, Lexeme.concat_cons lexeme, List.length_append, Nat.add_assoc]

/-- A placed token is a piece of any text that has the lexemes at their offset. -/
theorem of_mem_place {source : Text} (here : source.drop offset = Lexeme.concat lexemes)
    (member : token ∈ place offset lexemes) :
    token.lexeme ∈ lexemes ∧ token.stop = token.start + token.lexeme.text.length ∧
      token.lexeme.text = (source.take token.stop).drop token.start := by
  induction lexemes generalizing offset with
  | nil => simp [place] at member
  | cons lexeme lexemes ih =>
    rw [Lexeme.concat_cons] at here
    rcases List.mem_cons.1 member with rfl | later
    · refine ⟨by simp, rfl, ?_⟩
      dsimp only
      rw [List.drop_take, Nat.add_sub_cancel_left, here, List.take_left]
    · have ahead : source.drop (offset + lexeme.text.length) = Lexeme.concat lexemes := by
        rw [← List.drop_drop, here, List.drop_left]
      obtain ⟨inLexemes, stop, text⟩ := ih ahead later
      exact ⟨List.mem_cons_of_mem _ inLexemes, stop, text⟩

end Token

theorem scan_eq_nil_iff {localized : Bool} {source : Text} :
    scan localized source = [] ↔ source = [] := by
  constructor
  · intro none
    rw [← concat_scan localized source, none]
    rfl
  · rintro rfl
    simp [scan, lexemes, Token.place]

theorem tiles_scan (localized : Bool) (source : Text) : Tiles source (scan localized source) := by
  have here : source.drop 0 = Lexeme.concat (lexemes localized source) :=
    (concat_lexemes localized source).symm
  exact {
    eq_nil_iff := scan_eq_nil_iff
    first := fun _ first => Token.start_of_head?_place first
    adjacent := Token.place_adjacent 0 _
    last := by
      intro token last
      rw [Token.stop_of_getLast?_place last, concat_lexemes, Nat.zero_add]
    nonempty := by
      intro token member
      obtain ⟨inLexemes, stop, -⟩ := Token.of_mem_place here member
      have shaped : token.lexeme.Shaped localized := shaped_of_mem inLexemes
      have size := List.length_pos_iff.2 shaped.nonempty
      omega
    text := fun token member => (Token.of_mem_place here member).2.2 }

/-- The loop of the scanner ends on every source, takes no frame from an empty stack and has no
token refused; it returns tokens that tile the source and join up to it. -/
theorem scan_tiles (localized : Bool) (source : Text) :
    Cursor.loop source localized .start = .ok (scan localized source) ∧
      Tiles source (scan localized source) ∧ Token.concat (scan localized source) = source :=
  ⟨Cursor.loop_start source localized, tiles_scan localized source, concat_scan localized source⟩

end Diglot
