import Diglot.Proofs.SwappedWords

/-!
# Foreign words in place of words

Words of a text are replaced by words that begin with a letter outside ASCII, and nothing else is
changed or put between the lexemes. The scanner then finds the same lexemes, with the new words
among them (`lexemesFrom_concat`), for no number literal takes a foreign letter.
-/

set_option autoImplicit false

namespace Diglot

def startsForeign : Text → Bool
  | [] => false
  | c :: _ => Text.isLetter c && decide (128 ≤ c.toNat)

theorem head?_ne_of_startsForeign {text : Text} (foreign : startsForeign text = true) :
    text.head? ≠ some '$' := by
  cases text with
  | nil => simp
  | cons c cs =>
    intro dollar
    obtain rfl : c = '$' := by simpa using dollar
    exact absurd foreign (by simp [startsForeign])

/-- The lexeme is the same, or a foreign word stands for a word without dollar sign. -/
def Replaces (lexeme told : Lexeme) : Prop :=
  told = lexeme ∨
    Scope.full.affects lexeme.kind = true ∧ isWord lexeme.text = true ∧
      lexeme.text.head? ≠ some '$' ∧ isWord told.text = true ∧ startsForeign told.text = true ∧
      told.kind = wordKind told.text

/-- The source goes on with a word, and the other text with a foreign one. -/
def ForeignParting (rest other : Text) : Prop :=
  (∃ c cs, rest = c :: cs ∧ startsWord c = true ∧ c ≠ '$') ∧
    ∃ c cs, other = c :: cs ∧ Text.isLetter c = true ∧ 128 ≤ c.toNat

theorem inertParting_foreign : InertParting ForeignParting := by
  rintro rest other ⟨-, c, cs, rfl, letter, foreign⟩
  exact ⟨c, cs, rfl, isInert_iff.2 ⟨.inl foreign, isBlank_eq_false_of_isLetter letter⟩⟩

theorem Replaces.parted {lexeme told : Lexeme} (replaces : Replaces lexeme told) :
    told = lexeme ∨ ∀ rest other, ForeignParting (lexeme.text ++ rest) (told.text ++ other) := by
  rcases replaces with same | ⟨-, word, noDollar, toldWord, foreign, -⟩
  · exact .inl same
  · obtain ⟨c, cs, text⟩ := List.exists_cons_of_ne_nil (isWord_ne_nil word)
    obtain ⟨d, ds, toldText⟩ := List.exists_cons_of_ne_nil (isWord_ne_nil toldWord)
    rw [text] at word noDollar ⊢
    rw [toldText] at foreign ⊢
    refine .inr fun rest other => ⟨⟨c, _, rfl, (isWord_cons.1 word).1, ?_⟩, ⟨d, _, rfl, ?_⟩⟩
    · simpa using noDollar
    · simpa [startsForeign] using foreign

theorem Replaces.rewords {lexeme told : Lexeme} (replaces : Replaces lexeme told) :
    Rewords lexeme told := by
  rcases replaces with same | ⟨name, word, noDollar, toldWord, -, kind⟩
  · exact .inl same
  · exact .inr ⟨name, word, noDollar, toldWord, kind⟩

theorem numbersEnd_of_replaced {lexemes told : List Lexeme}
    (replaced : List.Forall₂ Replaces lexemes told) : NumbersEnd lexemes told := by
  induction replaced with
  | nil => exact trivial
  | cons _ others ih =>
    refine ⟨fun _ first => ?_, ih⟩
    exact (Number.steady_tail (inertParting_foreign.without asked_isPart) first).keeps
      (resumes_concat (fun _ _ => Replaces.parted) others)

/-- The scanner finds the lexemes with the foreign words in place. -/
theorem lexemesFrom_concat {localized : Bool} {context : Context} {input : Text}
    {told : List Lexeme}
    (replaced : List.Forall₂ Replaces (lexemesFrom localized context input) told) :
    lexemesFrom localized context (Lexeme.concat told) = told :=
  lexemesFrom_reworded (replaced.imp fun _ _ => Replaces.rewords) (numbersEnd_of_replaced replaced)

end Diglot
