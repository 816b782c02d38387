import Diglot.Proofs.StrippedMarkup
import Diglot.Proofs.TextPieces

/-!
# Isolates are closed

An isolate that stays open changes how all the text behind it is shown. In localized text every
isolate is closed before another control stands, no end of an isolate is left over, and a mark
stands behind an opening bracket and outside of isolates (`WellMarked`). Texts of this kind may be
put after one another, and each lexeme is written as one, so that a converted text is well marked as
long as neither the source nor the symbols put into it bring controls of their own. The modes
without markup have no controls at all, wherever these come from (`convert_wellMarked`).
-/

set_option autoImplicit false

namespace Diglot

open Markup (isControl stripControls popIsolate leftMark isolate markedText plainText)
open Text (split_append split_singleton)

variable {lexeme : Lexeme} {text a b before after : Text} {c : Char}

/-- Whether a character begins an isolate. -/
def opensIsolate (c : Char) : Bool :=
  c ∈ [Markup.leftIsolate, Markup.rightIsolate, Markup.firstStrongIsolate]

/-- Isolates are closed without another control in them, they alone are closed, and marks stand
outside of them behind opening brackets; there are no other controls. -/
structure WellMarked (text : Text) : Prop where
  closed : ∀ before opener after, text = before ++ opener :: after → opensIsolate opener = true →
    ∃ inner rest, after = inner ++ popIsolate :: rest ∧ Uncontrolled inner
  closes : ∀ before after, text = before ++ popIsolate :: after →
    ∃ front opener inner, before = front ++ opener :: inner ∧ opensIsolate opener = true ∧
      Uncontrolled inner
  bracketed : ∀ before after, text = before ++ leftMark :: after →
    ∃ front bracket, before = front ++ [bracket] ∧ bracket ∈ ['(', '[', '{']
  outside : ∀ before after, text = before ++ leftMark :: after →
    ∀ front opener inner, before = front ++ opener :: inner → opensIsolate opener = true →
      popIsolate ∈ inner
  only : ∀ c ∈ text, isControl c = true → opensIsolate c = true ∨ c = popIsolate ∨ c = leftMark

/-! ## One text after another -/

theorem WellMarked.append (first : WellMarked a) (second : WellMarked b) :
    WellMarked (a ++ b) where
  closed := by
    intro before opener after split opens
    rcases split_append split with ⟨rest, inFirst, rfl⟩ | ⟨front, rfl, inSecond⟩
    · obtain ⟨inner, behind, rfl, plain⟩ := first.closed before opener rest inFirst opens
      exact ⟨inner, behind ++ b, by simp, plain⟩
    · exact second.closed front opener after inSecond opens
  closes := by
    intro before after split
    rcases split_append split with ⟨rest, inFirst, -⟩ | ⟨front, rfl, inSecond⟩
    · exact first.closes before rest inFirst
    · obtain ⟨behind, opener, inner, rfl, opens, plain⟩ := second.closes front after inSecond
      exact ⟨a ++ behind, opener, inner, by simp, opens, plain⟩
  bracketed := by
    intro before after split
    rcases split_append split with ⟨rest, inFirst, -⟩ | ⟨front, rfl, inSecond⟩
    · exact first.bracketed before rest inFirst
    · obtain ⟨behind, bracket, rfl, opening⟩ := second.bracketed front after inSecond
      exact ⟨a ++ behind, bracket, by simp, opening⟩
  outside := by
    intro before after split front opener inner inside opens
    rcases split_append split with ⟨rest, inFirst, -⟩ | ⟨behind, rfl, inSecond⟩
    · exact first.outside before rest inFirst front opener inner inside opens
    -- the isolate begins before the mark, and one of the first text is closed there
    · rcases split_append inside with ⟨rest, inFirst, rfl⟩ | ⟨later, rfl, inSecond'⟩
      · obtain ⟨isolated, beyond, rfl, -⟩ := first.closed front opener rest inFirst opens
        simp
      · exact second.outside behind after inSecond later opener inner inSecond' opens
  only := by
    intro c member
    rcases List.mem_append.1 member with inFirst | inSecond
    · exact first.only c inFirst
    · exact second.only c inSecond

/-! ## The pieces -/

theorem isControl_of_opensIsolate (opens : opensIsolate c = true) : isControl c = true := by
  have each : ∀ d ∈ [Markup.leftIsolate, Markup.rightIsolate, Markup.firstStrongIsolate],
      isControl d = true := forall_mem_of_all (by decide)
  exact each c (by simpa [opensIsolate] using opens)

theorem isControl_leftMark : isControl leftMark = true := by decide

/-- A character that is found in a text without controls is none. -/
theorem Uncontrolled.absurd_split {p : Prop} (plain : Uncontrolled text)
    (split : text = before ++ c :: after) (control : isControl c = true) : p := by
  have none := plain c (by simp [split])
  simp [control] at none

theorem wellMarked_of_uncontrolled (plain : Uncontrolled text) : WellMarked text where
  closed := by
    intro before opener after split opens
    exact plain.absurd_split split (isControl_of_opensIsolate opens)
  closes := by
    intro before after split
    exact plain.absurd_split split isControl_popIsolate
  bracketed := by
    intro before after split
    exact plain.absurd_split split isControl_leftMark
  outside := by
    intro before after split
    exact plain.absurd_split split isControl_leftMark
  only := by
    intro c member control
    have none := plain c member
    simp [control] at none

/-- The controls of an isolate are its two ends. -/
theorem split_isolate {opener : Char} (plain : Uncontrolled text)
    (split : isolate opener text = before ++ c :: after) (control : isControl c = true) :
    before = [] ∧ c = opener ∧ after = text ++ [popIsolate] ∨
      before = opener :: text ∧ c = popIsolate ∧ after = [] := by
  unfold isolate at split
  cases before with
  | nil =>
    obtain ⟨rfl, rfl⟩ := List.cons.inj split
    exact .inl ⟨rfl, rfl, rfl⟩
  | cons d before =>
    obtain ⟨rfl, tail⟩ := List.cons.inj split
    rcases split_append tail with ⟨rest, inside, -⟩ | ⟨front, rfl, last⟩
    · exact plain.absurd_split inside control
    · obtain ⟨rfl, rfl, rfl⟩ := split_singleton last
      exact .inr ⟨by simp, rfl, rfl⟩

theorem wellMarked_isolate {opener : Char} (opens : opensIsolate opener = true)
    (plain : Uncontrolled text) : WellMarked (isolate opener text) := by
  have noMark {before after : Text} (split : isolate opener text = before ++ leftMark :: after) :
      False := by
    rcases split_isolate plain split isControl_leftMark with ⟨-, same, -⟩ | ⟨-, same, -⟩
    · rw [← same] at opens
      exact absurd opens (by decide)
    · exact absurd same (by decide)
  refine ⟨?_, ?_, ?_, ?_, ?_⟩
  · intro before other after split opensOther
    rcases split_isolate plain split (isControl_of_opensIsolate opensOther) with
      ⟨-, -, rfl⟩ | ⟨-, rfl, -⟩
    · exact ⟨text, [], rfl, plain⟩
    · exact absurd opensOther (by decide)
  · intro before after split
    rcases split_isolate plain split isControl_popIsolate with ⟨-, same, -⟩ | ⟨rfl, -, -⟩
    · rw [← same] at opens
      exact absurd opens (by decide)
    · exact ⟨[], opener, text, rfl, opens, plain⟩
  · intro before after split
    exact (noMark split).elim
  · intro before after split
    exact (noMark split).elim
  · intro c member control
    obtain ⟨before, after, split⟩ := List.append_of_mem member
    rcases split_isolate plain split control with ⟨-, rfl, -⟩ | ⟨-, same, -⟩
    · exact .inl opens
    · exact .inr (.inl same)

theorem wellMarked_bracket {bracket : Char} (opening : bracket ∈ ['(', '[', '{']) :
    WellMarked [bracket, leftMark] := by
  have noControl : isControl bracket = false := by
    have each : ∀ d ∈ ['(', '[', '{'], isControl d = false := forall_mem_of_all (by decide)
    exact each bracket opening
  -- the mark is the only control
  have mark {before after : Text} {c : Char} (split : [bracket, leftMark] = before ++ c :: after)
      (control : isControl c = true) : before = [bracket] ∧ c = leftMark := by
    cases before with
    | nil =>
      obtain ⟨rfl, -⟩ := List.cons.inj split
      simp [noControl] at control
    | cons d before =>
      obtain ⟨rfl, last⟩ := List.cons.inj split
      obtain ⟨rfl, rfl, -⟩ := split_singleton last
      exact ⟨rfl, rfl⟩
  refine ⟨?_, ?_, ?_, ?_, ?_⟩
  · intro before opener after split opens
    rw [(mark split (isControl_of_opensIsolate opens)).2] at opens
    exact absurd opens (by decide)
  · intro before after split
    exact absurd (mark split isControl_popIsolate).2 (by decide)
  · intro before after split
    exact ⟨[], bracket, (mark split isControl_leftMark).1, opening⟩
  · intro before after split front opener inner inside opens
    rw [(mark split isControl_leftMark).1] at inside
    obtain ⟨-, rfl, -⟩ := split_singleton inside
    simp [isControl_of_opensIsolate opens] at noControl
  · intro c member control
    obtain ⟨before, after, split⟩ := List.append_of_mem member
    exact .inr (.inr (mark split control).2)

/-! ## Lexemes and texts -/

/-- A lexeme without controls is written so in localized text. -/
theorem wellMarked_markedText (plain : Uncontrolled lexeme.text) :
    WellMarked (markedText lexeme) := by
  obtain ⟨kind, text⟩ := lexeme
  cases kind with
  | keyword | identifier => exact wellMarked_isolate (by dsimp only; split <;> decide) plain
  | stringLiteral => exact wellMarked_isolate (by decide) plain
  | operator => exact wellMarked_isolate (by decide) plain.swapSlashes
  | delimiter => exact wellMarked_isolate (by decide) plain.localizedDelimiter
  | punctuation =>
    unfold markedText
    dsimp only
    split
    · next opening =>
      have bracket : text = ['('] ∨ text = ['['] ∨ text = ['{'] := by
        simpa [Markup.isOpeningBracket] using opening
      rcases bracket with rfl | rfl | rfl <;> exact wellMarked_bracket (by decide)
    · exact wellMarked_of_uncontrolled plain
  | whitespace | comment | numberLiteral | unknown => exact wellMarked_of_uncontrolled plain

theorem wellMarked_render {lexemes : List Lexeme}
    (plain : ∀ lexeme ∈ lexemes, Uncontrolled lexeme.text) :
    WellMarked (Markup.render .localized lexemes) := by
  induction lexemes with
  | nil => exact wellMarked_of_uncontrolled (by simp [Markup.render, Uncontrolled])
  | cons lexeme lexemes ih =>
    rw [render_localized_cons]
    apply WellMarked.append
    · exact wellMarked_markedText (plain lexeme (by simp))
    · apply ih
      intro other member
      exact plain other (List.mem_cons_of_mem _ member)

theorem uncontrolled_stripControls (text : Text) : Uncontrolled (stripControls text) := by
  intro c member
  simpa using (List.mem_filter.1 member).2

/-- The modes without markup write no control, whatever the lexeme holds. -/
theorem uncontrolled_plainText (lexeme : Lexeme) : Uncontrolled (plainText lexeme) := by
  have stripped := uncontrolled_stripControls lexeme.text
  obtain ⟨kind, text⟩ := lexeme
  cases kind with
  | operator =>
    intro c member
    obtain ⟨d, inText, rfl⟩ := List.mem_map.1 member
    unfold Markup.forwardSlash
    split
    · decide
    · exact stripped d inText
  | delimiter =>
    change Uncontrolled (Markup.plainDelimiter (stripControls text))
    unfold Markup.plainDelimiter
    split
    · next rest same =>
      intro c member
      rcases List.mem_cons.1 member with rfl | later
      · decide
      · exact stripped c (by simp [same, later])
    · exact stripped
  | keyword | identifier | stringLiteral | comment | whitespace | punctuation | numberLiteral
  | unknown => exact stripped

/-- The text of a lexeme with its slashes as localized text has them: turned round in operators, and
in front of an interpolation. -/
def Lexeme.turned (lexeme : Lexeme) : Text :=
  match lexeme.kind with
  | .operator => Markup.swapSlashes lexeme.text
  | .delimiter => Markup.localizedDelimiter lexeme.text
  | .keyword | .identifier | .stringLiteral | .comment | .whitespace | .punctuation
  | .numberLiteral | .unknown => lexeme.text

theorem uncontrolled_reword {lexicon : Lexicon} {scope : Scope}
    (symbols : ∀ symbol ∈ lexicon.localizedSymbols, Uncontrolled symbol)
    (plain : Uncontrolled lexeme.text) :
    Uncontrolled (lexeme.reword lexicon .toLocalized scope).text := by
  unfold Lexeme.reword
  split
  · cases found : lexicon.counterpart? .toLocalized lexeme.text with
    | none => exact plain
    | some word => exact symbols word (Lexicon.mem_localizedSymbols found)
  · exact plain

/-- A text converted to a mode without markup has no control, whatever controls the source and the
symbols of the lexicon hold. A text converted to localized text is well marked if the source and the
localized symbols hold none; without its controls it is the reworded lexemes after one another, with
their slashes turned. -/
theorem convert_wellMarked (lexicon : Lexicon) (source target : Mode) (text : Text)
    (differ : source ≠ target) :
    (target ≠ .localized → Uncontrolled (convert lexicon source target text)) ∧
    (target = .localized → Uncontrolled text →
      (∀ symbol ∈ lexicon.localizedSymbols, Uncontrolled symbol) →
      WellMarked (convert lexicon source target text) ∧
        stripControls (convert lexicon source target text) =
          ((lexemes source.hasMarkup text).map
            (Lexeme.reword lexicon target.direction (source.scopeTo target))).flatMap
              Lexeme.turned) := by
  constructor
  · intro unmarked c member
    rw [convert_toPlain unmarked differ] at member
    obtain ⟨lexeme, -, written⟩ := List.mem_flatMap.1 member
    exact uncontrolled_plainText _ c written
  · intro localized uncontrolled symbols
    subst localized
    have scanned : lexemes source.hasMarkup text = lexemes false text := by
      cases source with
      | localized => exact absurd rfl differ
      | primary | hybrid => rfl
    have plain : ∀ lexeme ∈ (lexemes false text).map
        (Lexeme.reword lexicon .toLocalized (source.scopeTo .localized)),
        Uncontrolled lexeme.text := by
      intro lexeme member
      obtain ⟨first, inText, rfl⟩ := List.mem_map.1 member
      exact uncontrolled_reword symbols (uncontrolled.of_mem inText)
    rw [convert_toLocalized differ, scanned]
    refine ⟨wellMarked_render plain, ?_⟩
    rw [stripControls_render plain]
    exact List.flatMap_congr fun lexeme _ => lexeme.spelling_eq

/-- The library's symbols hold controls, and so does the text. -/
def controlledLexicon : Lexicon :=
  .forCompilation ⟨[⟨['a'], ['b', Markup.rightMark]⟩], by decide, by decide⟩

theorem convert_wellMarked_nested :
    convert controlledLexicon .hybrid .primary ['a', '+', leftMark] = ['b', '+'] ∧
      Uncontrolled (convert controlledLexicon .hybrid .primary ['a', '+', leftMark]) ∧
      (∀ symbol ∈ smallLexicon.localizedSymbols, Uncontrolled symbol) ∧
      WellMarked (convert smallLexicon .primary .localized nestedText) := by
  have plain := convert_wellMarked controlledLexicon .hybrid .primary ['a', '+', leftMark]
    (by decide)
  have localized := convert_wellMarked smallLexicon .primary .localized nestedText (by decide)
  have symbols : ∀ symbol ∈ smallLexicon.localizedSymbols, Uncontrolled symbol := by
    decide +kernel
  exact ⟨by decide +kernel, plain.1 (by decide), symbols,
    (localized.2 rfl (by decide +kernel) symbols).1⟩

end Diglot
