import Diglot.Proofs.LexemeShapes
import Mathlib.Data.List.Forall2

/-!
# Words in place of words

Words of a text are replaced by other words, and nothing else is changed or put between the lexemes.
No word grows together with its neighbours, since it was a word that stood there before, and no
operator, comment or string literal goes on with a word. A number literal may: `0` takes the word
behind it if that becomes `b1`, and `0x1` takes the point and the word behind it if that becomes
`a`. Where every number literal ends as before (`NumbersEnd`), the scanner finds the old lexemes
with the new words among them (`lexemesFrom_reworded`). Numbers end as before if no name follows
them, at once or behind a point (`numbersEnd_of_apart`).
-/

set_option autoImplicit false

namespace Diglot

variable {localized : Bool} {context : Context} {depths : List Nat} {input : Text}
  {lexeme told : Lexeme}

/-- The lexeme is the same, or a word stands for a word without dollar sign. -/
def SwapsWord (lexeme told : Lexeme) : Prop :=
  told = lexeme ∨
    Scope.full.affects lexeme.kind = true ∧ isWord lexeme.text = true ∧
      lexeme.text.head? ≠ some '$' ∧ isWord told.text = true

/-- Both texts go on with a word, the first with one without dollar sign. -/
def WordsParting (rest other : Text) : Prop :=
  (∃ c cs, rest = c :: cs ∧ startsWord c = true ∧ c ≠ '$') ∧
    ∃ c cs, other = c :: cs ∧ startsWord c = true

theorem wordParting_words : WordParting WordsParting where
  first _ _ apart := apart.1
  second _ _ apart := apart.2

theorem SwapsWord.parted (swaps : SwapsWord lexeme told) :
    told = lexeme ∨ ∀ rest other, WordsParting (lexeme.text ++ rest) (told.text ++ other) := by
  rcases swaps with same | ⟨-, word, noDollar, toldWord⟩
  · exact .inl same
  · obtain ⟨c, cs, text⟩ := List.exists_cons_of_ne_nil (isWord_ne_nil word)
    obtain ⟨d, ds, toldText⟩ := List.exists_cons_of_ne_nil (isWord_ne_nil toldWord)
    rw [text] at word noDollar ⊢
    rw [toldText] at toldWord ⊢
    refine .inr fun rest other => ⟨⟨c, _, rfl, (isWord_cons.1 word).1, ?_⟩, d, _, rfl,
      (isWord_cons.1 toldWord).1⟩
    simpa using noDollar

/-- Texts of lexemes go on alike up to the first lexeme that is replaced. -/
theorem resumes_concat {parts : Text → Text → Prop} {related : Lexeme → Lexeme → Prop}
    (parted : ∀ lexeme told, related lexeme told →
      told = lexeme ∨ ∀ rest other, parts (lexeme.text ++ rest) (told.text ++ other))
    {lexemes told : List Lexeme} (replaced : List.Forall₂ related lexemes told) :
    Resumes parts (Lexeme.concat lexemes) (Lexeme.concat told) := by
  induction replaced with
  | nil => exact .ended
  | @cons lexeme toldLexeme lexemes told replaces _ ih =>
    rw [Lexeme.concat_cons, Lexeme.concat_cons]
    rcases parted lexeme toldLexeme replaces with rfl | apart
    · exact ih.append toldLexeme.text
    · exact .parted (apart _ _)

/-- What ends a word in the source ends it in the other text. -/
theorem Resumes.ends_word {parts : Text → Text → Prop} (words : WordParting parts)
    {rest other : Text} (resumes : Resumes parts rest other)
    (ends : ∀ c ∈ rest.head?, continuesWord c = false) :
    ∀ c ∈ other.head?, continuesWord c = false := by
  cases resumes with
  | ended => exact ends
  | parted apart =>
    obtain ⟨c, cs, rfl, starts, noDollar⟩ := words.first apart
    have goesOn := continuesWord_of_startsWord starts noDollar
    simp [goesOn] at ends
  | shared c _ => simpa using ends

/-- A scanned word ends before what does not continue it. -/
theorem step_word_ends {c : Char} {cs : Text}
    (name : Scope.full.affects (step localized context c cs).kind = true)
    (word : isWord (step localized context c cs).cut.taken = true) :
    ∀ d ∈ (step localized context c cs).cut.rest.head?, continuesWord d = false := by
  obtain ⟨depths, rfl, -, form⟩ := step_of_name name
  rcases form with form | form
  · have cut : (step localized (.code depths) c cs).cut = wordCut c cs := by
      simp only [step, codeStep, form]
    rw [cut]
    exact (Cut.span_eq_iff.1 (Cut.eq_of_whole (Cut.whole_span continuesWord) cs)).2
  · have begins := Form.begins c cs
    rw [form] at begins
    obtain rfl : c = backtick := begins
    have taken : (step localized (.code depths) backtick cs).cut.taken =
        backtick :: (escapedNameTail cs).taken := by
      simp only [step, codeStep, form]
      rfl
    rw [taken] at word
    exact absurd (isWord_cons.1 word).1 (by decide)

/-! ## Scanning the new words -/

/-- The lexeme is the same, or a word with its own kind stands for a word without dollar sign. -/
def Rewords (lexeme told : Lexeme) : Prop :=
  told = lexeme ∨
    Scope.full.affects lexeme.kind = true ∧ isWord lexeme.text = true ∧
      lexeme.text.head? ≠ some '$' ∧ isWord told.text = true ∧ told.kind = wordKind told.text

theorem Rewords.swapsWord (rewords : Rewords lexeme told) : SwapsWord lexeme told := by
  rcases rewords with same | ⟨name, word, noDollar, toldWord, -⟩
  · exact .inl same
  · exact .inr ⟨name, word, noDollar, toldWord⟩

theorem Rewords.eq_of_noName (rewords : Rewords lexeme told)
    (noName : Scope.full.affects lexeme.kind = false) : told = lexeme := by
  rcases rewords with same | ⟨name, -⟩
  · exact same
  · simp [noName] at name

/-- Every number literal ends before the told lexemes where it ends before its own. -/
def NumbersEnd : List Lexeme → List Lexeme → Prop
  | lexeme :: lexemes, _ :: told =>
    (lexeme.kind = .numberLiteral → ∀ first,
      Keeps (Number.tail first) (Lexeme.concat lexemes) (Lexeme.concat told)) ∧
    NumbersEnd lexemes told
  | _, _ => True

/-- The scanner finds the lexemes with the new words in place. -/
theorem lexemesFrom_reworded {told : List Lexeme}
    (reworded : List.Forall₂ Rewords (lexemesFrom localized context input) told)
    (numbers : NumbersEnd (lexemesFrom localized context input) told) :
    lexemesFrom localized context (Lexeme.concat told) = told := by
  fun_induction lexemesFrom localized context input generalizing told with
  | case1 =>
    obtain rfl := List.forall₂_nil_left_iff.1 reworded
    simp
  | @case2 context c cs next ih =>
    obtain ⟨first, told, rewords, others, rfl⟩ := List.forall₂_cons_left_iff.1 reworded
    obtain ⟨number, numbers⟩ := numbers
    have rest := ih others numbers
    have resumes : Resumes WordsParting next.cut.rest (Lexeme.concat told) := by
      have resumes := resumes_concat (fun _ _ rewords => rewords.swapsWord.parted) others
      rwa [concat_lexemesFrom] at resumes
    rw [Lexeme.concat_cons]
    rcases rewords with rfl | ⟨name, word, -, toldWord, kind⟩
    · have keeps (isNumber : next.kind = .numberLiteral) :
          Keeps (Number.tail c) next.cut.rest (Lexeme.concat told) := by
        have keeps := number isNumber c
        rwa [concat_lexemesFrom] at keeps
      obtain ⟨taken, start, steady⟩ := step_steady_rest wordParting_words keeps resumes
      have start : next.cut.taken = c :: taken := start
      rw [start, List.cons_append, lexemesFrom_cons, steady]
      rw [← start]
      exact congrArg (⟨next.kind, next.cut.taken⟩ :: ·) rest
    · obtain ⟨depths, rfl, after, -⟩ := step_of_name name
      have after : next.context = .code depths := after
      have ends := resumes.ends_word wordParting_words (step_word_ends name word)
      obtain ⟨d, ds, text⟩ := List.exists_cons_of_ne_nil (isWord_ne_nil toldWord)
      have same : first = ⟨wordKind (d :: ds), d :: ds⟩ := by
        rw [← text, ← kind]
      rw [text] at toldWord ⊢
      rw [after] at rest
      rw [List.cons_append, lexemesFrom_cons, step_word toldWord ends, rest, same]

/-! ## Numbers apart from names -/

def Unnamed (lexemes : List Lexeme) : Prop :=
  ∀ lexeme ∈ lexemes.head?, Scope.full.affects lexeme.kind = false

instance (lexemes : List Lexeme) : Decidable (Unnamed lexemes) :=
  inferInstanceAs (Decidable (∀ lexeme ∈ lexemes.head?, _))

/-- No number literal has a name right behind it, or a point and a name behind that. -/
def NumbersApart : List Lexeme → Prop
  | [] => True
  | lexeme :: lexemes =>
    (lexeme.kind = .numberLiteral →
      Unnamed lexemes ∧ (lexemes.head? = some ⟨.punctuation, ['.']⟩ → Unnamed lexemes.tail)) ∧
    NumbersApart lexemes

instance decidableNumbersApart : (lexemes : List Lexeme) → Decidable (NumbersApart lexemes)
  | [] => .isTrue trivial
  | _ :: lexemes =>
    have := decidableNumbersApart lexemes
    inferInstanceAs (Decidable (_ ∧ _))

/-- In code that does not begin with a name no word begins, and the first character stays. -/
theorem head?_of_unnamed {told : List Lexeme}
    (reworded : List.Forall₂ Rewords (lexemesFrom localized (.code depths) input) told)
    (unnamed : Unnamed (lexemesFrom localized (.code depths) input)) :
    (∀ c ∈ input.head?, startsWord c = false) ∧ (Lexeme.concat told).head? = input.head? := by
  cases input with
  | nil =>
    rw [lexemesFrom_nil, List.forall₂_nil_left_iff] at reworded
    simp [reworded]
  | cons c cs =>
    rw [lexemesFrom_cons] at reworded unnamed
    obtain ⟨first, told, rewords, -, rfl⟩ := List.forall₂_cons_left_iff.1 reworded
    have noName := unnamed _ rfl
    have same := rewords.eq_of_noName noName
    obtain ⟨taken, start, -⟩ := step_taken_eq localized (.code depths) c cs
    constructor
    · intro d next
      obtain rfl : c = d := by simpa using next
      rw [Bool.eq_false_iff]
      intro starts
      simp [step, codeStep, Form.ofStart_of_startsWord starts, affects_full_wordKind] at noName
    · simp [same, start]

/-- A number literal ends as before if no name follows, at once or behind a point. -/
theorem keeps_of_unnamed {told : List Lexeme}
    (reworded : List.Forall₂ Rewords (lexemesFrom localized (.code depths) input) told)
    (unnamed : Unnamed (lexemesFrom localized (.code depths) input))
    (point : (lexemesFrom localized (.code depths) input).head? = some ⟨.punctuation, ['.']⟩ →
      Unnamed (lexemesFrom localized (.code depths) input).tail) (first : Char) :
    Keeps (Number.tail first) input (Lexeme.concat told) := by
  obtain ⟨noWord, head⟩ := head?_of_unnamed reworded unnamed
  apply Number.keeps_tail_of_head noWord head
  intro dot
  obtain ⟨cs, rfl⟩ := List.head?_eq_some_iff.1 dot
  have stepped : step localized (.code depths) '.' cs =
      ⟨.punctuation, ⟨['.'], cs⟩, .code depths⟩ := by
    rw [step, codeStep, Form.ofStart_punctuation (by decide) (by decide)]
    cases depths <;> rfl
  rw [lexemesFrom_cons, stepped] at reworded point
  obtain ⟨mark, told, rewords, others, rfl⟩ := List.forall₂_cons_left_iff.1 reworded
  have same : mark = ⟨.punctuation, ['.']⟩ := rewords.eq_of_noName rfl
  have next := (head?_of_unnamed others (point rfl)).2
  rw [Lexeme.concat_cons, same]
  exact next

/-- Numbers apart from names end as before. -/
theorem numbersEnd_of_apart {told : List Lexeme}
    (reworded : List.Forall₂ Rewords (lexemesFrom localized context input) told)
    (apart : NumbersApart (lexemesFrom localized context input)) :
    NumbersEnd (lexemesFrom localized context input) told := by
  fun_induction lexemesFrom localized context input generalizing told with
  | case1 => exact trivial
  | @case2 context c cs next ih =>
    obtain ⟨first, told, -, others, rfl⟩ := List.forall₂_cons_left_iff.1 reworded
    obtain ⟨number, apart⟩ := apart
    refine ⟨fun isNumber first => ?_, ih others apart⟩
    obtain ⟨unnamed, point⟩ := number isNumber
    obtain ⟨depths, -, after, -⟩ := step_of_number isNumber
    have after : next.context = .code depths := after
    rw [after] at others unnamed point
    rw [concat_lexemesFrom]
    exact keeps_of_unnamed others unnamed point first

end Diglot
