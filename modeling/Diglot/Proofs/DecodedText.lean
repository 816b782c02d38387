import Diglot.Proofs.LocalizedTrip
import Mathlib.Data.List.Chain
import Mathlib.Data.List.TakeWhile

/-!
# Localized text is decodable

Whatever words stand in place of the names of a source, the localized text of its lexemes is read
as these lexemes (`localized_text_decodes`). Three things are read otherwise than they were told:
an operator has its slashes turned round, and is cut at its backslashes then (`SlashCut`); an opener
has the other slash; and a word has the kind of its text.
-/

set_option autoImplicit false

namespace Diglot

/-- The pieces make up the text, which is cut where a backslash begins or ends and nowhere else. -/
structure SlashCut (text : Text) (pieces : List Text) : Prop where
  joined : pieces.flatten = text
  nonempty : ∀ piece ∈ pieces, piece ≠ []
  alone : ∀ piece ∈ pieces, '\\' ∈ piece → piece = ['\\']
  apart : pieces.IsChain fun piece next => piece = ['\\'] ∨ next = ['\\']

namespace SlashCut

variable {text : Text} {pieces : List Text}

theorem nil : SlashCut [] [] where
  joined := rfl
  nonempty := by simp
  alone := by simp
  apart := .nil

theorem backslash (cut : SlashCut text pieces) : SlashCut ('\\' :: text) (['\\'] :: pieces) where
  joined := congrArg ('\\' :: ·) cut.joined
  nonempty := List.forall_mem_cons.2 ⟨by simp, cut.nonempty⟩
  alone := List.forall_mem_cons.2 ⟨fun _ => rfl, cut.alone⟩
  apart := List.isChain_cons.2 ⟨fun _ _ => .inl rfl, cut.apart⟩

/-- Before a backslash, the next piece is that backslash. -/
theorem eq_of_head? (cut : SlashCut text pieces) (stops : ∀ c ∈ text.head?, c = '\\') :
    ∀ next ∈ pieces.head?, next = ['\\'] := by
  intro next isNext
  obtain ⟨pieces, rfl⟩ := List.head?_eq_some_iff.1 isNext
  obtain ⟨c, cs, rfl⟩ := List.exists_cons_of_ne_nil (cut.nonempty next (by simp))
  have first : text.head? = some c := by
    rw [← cut.joined]
    rfl
  obtain rfl : c = '\\' := stops c first
  exact cut.alone _ (by simp) (by simp)

/-- A run without backslash, up to the next one. -/
theorem run {front : Text} (present : front ≠ []) (plain : '\\' ∉ front)
    (stops : ∀ c ∈ text.head?, c = '\\') (cut : SlashCut text pieces) :
    SlashCut (front ++ text) (front :: pieces) where
  joined := congrArg (front ++ ·) cut.joined
  nonempty := List.forall_mem_cons.2 ⟨present, cut.nonempty⟩
  alone := List.forall_mem_cons.2 ⟨fun inside => absurd inside plain, cut.alone⟩
  apart := List.isChain_cons.2 ⟨fun next isNext => .inr (cut.eq_of_head? stops next isNext),
    cut.apart⟩

end SlashCut

theorem slashCut_slashPieces (text : Text) : SlashCut text (slashPieces text) := by
  fun_induction slashPieces text with
  | case1 => exact .nil
  | case2 cs ih => exact ih.backslash
  | case3 c cs noBackslash ih =>
    have plain : '\\' ∉ c :: cs.takeWhile (· != '\\') := by
      intro member
      rcases List.mem_cons.1 member with first | inRun
      · exact noBackslash first.symm
      · simpa using List.mem_takeWhile_imp inRun
    have stops : ∀ d ∈ (cs.dropWhile (· != '\\')).head?, d = '\\' := by
      intro d next
      have ends := List.head?_dropWhile_not (· != '\\') cs
      rw [next] at ends
      simpa using ends
    have cut := SlashCut.run (List.cons_ne_nil _ _) plain stops ih
    rwa [List.cons_append, List.takeWhile_append_dropWhile] at cut

/-- Whatever words stand in place of the names of a source, the scanner finds its lexemes in their
localized text: respelled, and among controls. An operator is cut at its backslashes. -/
theorem localized_text_decodes (source : Text) (carriable : Carriable source) (told : List Lexeme)
    (rephrased : List.Forall₂ Rephrases ((scan false source).map Token.lexeme) told) :
    bareLexemes ((scan true (Markup.render .localized told)).map Token.lexeme) =
        told.flatMap Lexeme.respelled ∧
      ∀ lexeme ∈ told, lexeme.kind = .operator →
        ∃ pieces, SlashCut (Markup.swapSlashes lexeme.text) pieces ∧
          lexeme.respelled = pieces.map (Lexeme.mk .operator) := by
  rw [map_lexeme_scan] at rephrased ⊢
  refine ⟨carriable.bareLexemes_told rephrased, ?_⟩
  intro lexeme _ operator
  refine ⟨_, slashCut_slashPieces _, ?_⟩
  simp only [Lexeme.respelled, operator]

/-- A keyword, a name, an operator with a slash in it, and an interpolation. -/
def plusSlash : Text :=
  ['i', 'f', ' ', 'x', '+', '/', '"', '\\', '(', 'y', ')', '"']

/-- The same with a name for the keyword and a keyword for a name. -/
def plusSlashTold : List Lexeme :=
  [⟨.keyword, ['x']⟩, ⟨.whitespace, [' ']⟩, ⟨.identifier, ['i', 'f']⟩, ⟨.operator, ['+', '/']⟩,
    ⟨.stringLiteral, ['"']⟩, ⟨.delimiter, ['\\', '(']⟩, ⟨.identifier, ['y']⟩, ⟨.delimiter, [')']⟩,
    ⟨.stringLiteral, ['"']⟩]

theorem localized_text_decodes_plusSlash :
    Carriable plusSlash ∧
      List.Forall₂ Rephrases ((scan false plusSlash).map Token.lexeme) plusSlashTold ∧
      bareLexemes ((scan true (Markup.render .localized plusSlashTold)).map Token.lexeme) =
        [⟨.identifier, ['x']⟩, ⟨.whitespace, [' ']⟩, ⟨.keyword, ['i', 'f']⟩, ⟨.operator, ['+']⟩,
          ⟨.operator, ['\\']⟩, ⟨.stringLiteral, ['"']⟩, ⟨.delimiter, ['/', '(']⟩,
          ⟨.identifier, ['y']⟩, ⟨.delimiter, [')']⟩, ⟨.stringLiteral, ['"']⟩] := by
  have carriable : Carriable plusSlash := {
    uncontrolled := by decide +kernel
    noBackslash := by decide +kernel
    sameScan := congrArg (Token.place 0)
      (by decide +kernel : lexemes true plusSlash = lexemes false plusSlash) }
  have rephrased :
      List.Forall₂ Rephrases ((scan false plusSlash).map Token.lexeme) plusSlashTold := by
    have found : (scan false plusSlash).map Token.lexeme =
        [⟨.keyword, ['i', 'f']⟩, ⟨.whitespace, [' ']⟩, ⟨.identifier, ['x']⟩,
          ⟨.operator, ['+', '/']⟩, ⟨.stringLiteral, ['"']⟩, ⟨.delimiter, ['\\', '(']⟩,
          ⟨.identifier, ['y']⟩, ⟨.delimiter, [')']⟩, ⟨.stringLiteral, ['"']⟩] := by
      decide +kernel
    have kept (lexemes : List Lexeme) : List.Forall₂ Rephrases lexemes lexemes :=
      List.forall₂_same.2 fun _ _ => .inl rfl
    rw [found]
    exact .cons (.inr ⟨rfl, rfl, by decide⟩) <| .cons (.inl rfl) <|
      .cons (.inr ⟨rfl, rfl, by decide⟩) (kept _)
  have respelled : plusSlashTold.flatMap Lexeme.respelled =
      [⟨.identifier, ['x']⟩, ⟨.whitespace, [' ']⟩, ⟨.keyword, ['i', 'f']⟩, ⟨.operator, ['+']⟩,
        ⟨.operator, ['\\']⟩, ⟨.stringLiteral, ['"']⟩, ⟨.delimiter, ['/', '(']⟩,
        ⟨.identifier, ['y']⟩, ⟨.delimiter, [')']⟩, ⟨.stringLiteral, ['"']⟩] := by
    decide +kernel
  refine ⟨carriable, rephrased, ?_⟩
  rw [(localized_text_decodes plusSlash carriable plusSlashTold rephrased).1, respelled]

end Diglot
