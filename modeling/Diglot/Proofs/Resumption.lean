import Diglot.Proofs.Characters

/-!
# What follows a lexeme

A scanner reads ahead of what it takes. A cutter `Keeps` what it takes if it takes the same front
whichever of two texts follows; composite scanners inherit that through `Keeps.andThen`. `Resumes`
relates two texts that go on alike up to a place where they may part, and a cutter is `Steady` if it
keeps what it takes before any two such texts. Steadiness is shown for each scanner of a lexeme.

What is asked of the places where texts part depends on the lexeme before them. At an inert parting
the second text goes on with a character that no lookahead mistakes for a part of the lexeme; a
parting without a class, and a formal one, ask that of one lookahead only. At an inner parting the
first text goes on within its line, so that a lexeme that ends with the line, or with the text, ends
there in both texts. At a word parting both texts go on with words.
-/

set_option autoImplicit false

namespace Diglot

open Text (isBlank isNewline)

variable {parts : Text → Text → Prop}

/-- `Resumes parts rest other`: the texts are alike up to a place where they are related by `parts`,
or to their common end. -/
inductive Resumes (parts : Text → Text → Prop) : Text → Text → Prop
  | ended : Resumes parts [] []
  | parted {rest other : Text} : parts rest other → Resumes parts rest other
  | shared {rest other : Text} (c : Char) : Resumes parts rest other →
      Resumes parts (c :: rest) (c :: other)

/-- Where the texts part, the second goes on with an inert character. -/
def InertParting (parts : Text → Text → Prop) : Prop :=
  ∀ ⦃rest other : Text⦄, parts rest other → ∃ c cs, other = c :: cs ∧ isInert c = true

/-- Where the texts part, the second goes on with no character of the class. -/
def PartingWithout (p : Char → Bool) (parts : Text → Text → Prop) : Prop :=
  ∀ ⦃rest other : Text⦄, parts rest other → ∀ c ∈ other.head?, p c = false

/-- Where the texts part, the second goes on with no character by which the form of a lexeme before
it is told, unless both go on with a quote. -/
def FormalParting (parts : Text → Text → Prop) : Prop :=
  ∀ ⦃rest other : Text⦄, parts rest other →
    ∃ c cs, other = c :: cs ∧ c ∉ ['#', '/', '*'] ∧ (c = '"' → rest.head? = some '"')

/-- Where the texts part, the first goes on within its line. -/
def InnerParting (parts : Text → Text → Prop) : Prop :=
  ∀ ⦃rest other : Text⦄, parts rest other → ∃ c cs, rest = c :: cs ∧ isNewline c = false

/-- Where the texts part, both go on with a word, and that of the first text has no dollar sign in
front. -/
structure WordParting (parts : Text → Text → Prop) : Prop where
  first : ∀ ⦃rest other : Text⦄, parts rest other →
    ∃ c cs, rest = c :: cs ∧ startsWord c = true ∧ c ≠ '$'
  second : ∀ ⦃rest other : Text⦄, parts rest other → ∃ c cs, other = c :: cs ∧ startsWord c = true

theorem InertParting.without (inert : InertParting parts) {p : Char → Bool} (asked : Asked p) :
    PartingWithout p parts := by
  intro rest other apart c next
  obtain ⟨d, ds, rfl, inertStart⟩ := inert apart
  obtain rfl : d = c := by simpa using next
  exact asked d inertStart

theorem InertParting.formal (inert : InertParting parts) : FormalParting parts := by
  intro rest other apart
  obtain ⟨c, cs, rfl, inertStart⟩ := inert apart
  have none_inert : ∀ d ∈ ['#', '/', '*'], isInert d = false := forall_mem_of_all (by decide)
  refine ⟨c, cs, rfl, fun member => ne_of_isInert inertStart (none_inert c member) rfl, ?_⟩
  exact fun quote => absurd quote (ne_of_isInert inertStart (by decide))

/-- Texts that part with words do not part with a character of a class that starts no word. -/
theorem WordParting.without (words : WordParting parts) {p : Char → Bool}
    (noWord : ∀ c, startsWord c = true → p c = false) : PartingWithout p parts := by
  intro rest other apart c next
  obtain ⟨d, ds, rfl, starts⟩ := words.second apart
  obtain rfl : d = c := by simpa using next
  exact noWord d starts

theorem WordParting.formal (words : WordParting parts) : FormalParting parts := by
  intro rest other apart
  obtain ⟨c, cs, rfl, starts⟩ := words.second apart
  have noWord : ∀ d ∈ ['#', '/', '*'], startsWord d = false := forall_mem_of_all (by decide)
  refine ⟨c, cs, rfl, fun member => ne_of_startsWord starts (noWord c member) rfl, ?_⟩
  exact fun quote => absurd quote (ne_of_startsWord starts (by decide))

theorem WordParting.inner (words : WordParting parts) : InnerParting parts := by
  intro rest other apart
  obtain ⟨c, cs, rfl, starts, -⟩ := words.first apart
  refine ⟨c, cs, rfl, ?_⟩
  have noFeed := ne_of_startsWord (d := '\n') starts (by decide)
  have noReturn := ne_of_startsWord (d := '\r') starts (by decide)
  simp [isNewline, noFeed, noReturn]

namespace Resumes

theorem append (front : Text) {rest other : Text} (h : Resumes parts rest other) :
    Resumes parts (front ++ rest) (front ++ other) := by
  induction front with
  | nil => exact h
  | cons c _ ih => exact .shared c ih

/-- A character that the second text goes on with is inert or the first goes on with it too. -/
theorem cons_cases (inert : InertParting parts) {rest cs : Text} {c : Char}
    (h : Resumes parts rest (c :: cs)) :
    isInert c = true ∨ ∃ tail, rest = c :: tail ∧ Resumes parts tail cs := by
  cases h with
  | parted apart =>
    obtain ⟨d, ds, same, inertStart⟩ := inert apart
    obtain ⟨rfl, -⟩ := List.cons.inj same
    exact .inl inertStart
  | shared _ tail => exact .inr ⟨_, rfl, tail⟩

/-- A character of a class that the second text does not part with stands in the first text too. -/
theorem cons_of_without {p : Char → Bool} (without : PartingWithout p parts) {rest cs : Text}
    {c : Char} (h : Resumes parts rest (c :: cs)) (member : p c = true) :
    ∃ tail, rest = c :: tail ∧ Resumes parts tail cs := by
  cases h with
  | parted apart => simp [without apart c rfl] at member
  | shared _ tail => exact ⟨_, rfl, tail⟩

/-- A number sign, a slash or a star comes next in the first text if it does in the second. -/
theorem cons_of_formal (formal : FormalParting parts) {rest cs : Text} {c : Char}
    (h : Resumes parts rest (c :: cs)) (told : c ∈ ['#', '/', '*']) :
    ∃ tail, rest = c :: tail ∧ Resumes parts tail cs := by
  cases h with
  | parted apart =>
    obtain ⟨d, ds, same, untold, -⟩ := formal apart
    obtain ⟨rfl, -⟩ := List.cons.inj same
    exact absurd told untold
  | shared _ tail => exact ⟨_, rfl, tail⟩

theorem head_of_formal (formal : FormalParting parts) {rest other : Text} {c : Char}
    (h : Resumes parts rest other) (told : c ∈ ['#', '/', '*']) (next : other.head? = some c) :
    rest.head? = some c := by
  cases other with
  | nil => simp at next
  | cons d ds =>
    obtain rfl : d = c := by simpa using next
    obtain ⟨tail, rfl, -⟩ := h.cons_of_formal formal told
    rfl

theorem quote_of_formal (formal : FormalParting parts) {rest other : Text}
    (h : Resumes parts rest other) (next : other.head? = some '"') : rest.head? = some '"' := by
  cases h with
  | ended => exact next
  | parted apart =>
    obtain ⟨c, cs, rfl, -, quote⟩ := formal apart
    exact quote (by simpa using next)
  | shared c _ => exact next

/-- A text that is at its end, or at the end of a line, is so whichever text follows. -/
theorem ends_of_ends (inner : InnerParting parts) {rest other : Text}
    (h : Resumes parts rest other) (ends : ∀ c ∈ rest.head?, isNewline c = true) :
    other.head? = rest.head? := by
  cases h with
  | ended => rfl
  | parted apart =>
    obtain ⟨c, cs, rfl, inside⟩ := inner apart
    have newline := ends c rfl
    simp [inside] at newline
  | shared c _ => rfl

theorem eq_nil (inner : InnerParting parts) {other : Text} (h : Resumes parts [] other) :
    other = [] := by
  have same := h.ends_of_ends inner (by simp)
  simpa using same

/-- A character that starts no word comes next in the second text if it does in the first. -/
theorem cons_of_words (words : WordParting parts) {rest other : Text} {c : Char}
    (h : Resumes parts (c :: rest) other) (noWord : startsWord c = false) :
    ∃ tail, other = c :: tail ∧ Resumes parts rest tail := by
  cases h with
  | parted apart =>
    obtain ⟨d, ds, same, starts, -⟩ := words.first apart
    obtain ⟨rfl, -⟩ := List.cons.inj same
    simp [noWord] at starts
  | shared _ tail => exact ⟨_, rfl, tail⟩

/-- A character that starts no word comes next in the first text if it does in the second. -/
theorem cons_of_words_second (words : WordParting parts) {rest other : Text} {c : Char}
    (h : Resumes parts rest (c :: other)) (noWord : startsWord c = false) :
    ∃ tail, rest = c :: tail ∧ Resumes parts tail other := by
  cases h with
  | parted apart =>
    obtain ⟨d, ds, same, starts⟩ := words.second apart
    obtain ⟨rfl, -⟩ := List.cons.inj same
    simp [noWord] at starts
  | shared _ tail => exact ⟨_, rfl, tail⟩

theorem head_of_words (words : WordParting parts) {rest other : Text} {c : Char}
    (h : Resumes parts rest other) (noWord : startsWord c = false) (next : other.head? = some c) :
    rest.head? = some c := by
  cases other with
  | nil => simp at next
  | cons d ds =>
    obtain rfl : d = c := by simpa using next
    obtain ⟨tail, rfl, -⟩ := h.cons_of_words_second words noWord
    rfl

end Resumes

/-! ## Steady cutters -/

/-- The cutter takes the same front before `other` as before `rest`. -/
def Keeps (cutter : Text → Cut) (rest other : Text) : Prop :=
  ∀ ⦃taken : Text⦄, cutter (taken ++ rest) = ⟨taken, rest⟩ →
    cutter (taken ++ other) = ⟨taken, other⟩

/-- The cutter takes the same front before `other` as before `rest`, if they go on alike. -/
def Steady (parts : Text → Text → Prop) (cutter : Text → Cut) : Prop :=
  ∀ ⦃taken rest other : Text⦄, cutter (taken ++ rest) = ⟨taken, rest⟩ →
    Resumes parts rest other → cutter (taken ++ other) = ⟨taken, other⟩

theorem Steady.keeps {cutter : Text → Cut} (steady : Steady parts cutter) {rest other : Text}
    (resumes : Resumes parts rest other) : Keeps cutter rest other :=
  fun _ cut => steady cut resumes

theorem Cut.eq_of_whole {cutter : Text → Cut} (whole : ∀ input, (cutter input).whole = input)
    (input : Text) : cutter ((cutter input).taken ++ (cutter input).rest) = cutter input :=
  congrArg cutter (whole input)

/-- A span is what it takes, and what it leaves does not start with such a character. -/
theorem Cut.span_eq_iff {p : Char → Bool} {taken rest : Text} :
    Cut.span p (taken ++ rest) = ⟨taken, rest⟩ ↔
      (∀ c ∈ taken, p c = true) ∧ ∀ c ∈ rest.head?, p c = false := by
  induction taken with
  | nil =>
    cases rest with
    | nil => simp [Cut.span]
    | cons c cs => cases h : p c <;> simp [Cut.span, h]
  | cons c cs ih =>
    cases h : p c with
    | false => simp [Cut.span, h]
    | true =>
      simp only [Cut.span, Cut.mk.injEq] at ih
      simp [Cut.span, h, ih]

theorem Cut.after_cons_eq {c : Char} {taken rest : Text} {cut : Cut} :
    cut.after [c] = ⟨c :: taken, rest⟩ ↔ cut = ⟨taken, rest⟩ := by
  cases cut
  simp [Cut.after]

theorem Cut.nothing_eq {taken rest : Text} :
    Cut.nothing (taken ++ rest) = ⟨taken, rest⟩ ↔ taken = [] := by
  simp only [Cut.nothing, Cut.mk.injEq]
  constructor
  · rintro ⟨rfl, -⟩
    rfl
  · rintro rfl
    simp

/-- A span is kept if what ends it before the first text ends it before the second. -/
theorem Keeps.span {p : Char → Bool} {rest other : Text}
    (stops : (∀ c ∈ rest.head?, p c = false) → ∀ c ∈ other.head?, p c = false) :
    Keeps (Cut.span p) rest other := by
  intro taken before
  rw [Cut.span_eq_iff] at before ⊢
  exact ⟨before.1, stops before.2⟩

theorem Steady.span {p : Char → Bool}
    (stops : ∀ ⦃rest other⦄, parts rest other → (∀ c ∈ rest.head?, p c = false) →
      ∀ c ∈ other.head?, p c = false) : Steady parts (Cut.span p) := by
  intro taken rest other before resumes
  refine Keeps.span (fun stopped => ?_) before
  cases resumes with
  | ended => simp
  | parted apart => exact stops apart stopped
  | shared c _ => exact stopped

/-- A span is steady if the second text does not part with a character of it. -/
theorem Steady.span_of_without {p : Char → Bool} (without : PartingWithout p parts) :
    Steady parts (Cut.span p) :=
  Steady.span fun _ _ apart _ => without apart

/-- Two cutters after one another take what each of them takes. -/
theorem Cut.andThen_eq_iff (first : Text → Cut) {second : Text → Cut}
    (wholeSecond : ∀ input, (second input).whole = input) {taken rest : Text} :
    (first (taken ++ rest)).andThen second = ⟨taken, rest⟩ ↔
      ∃ front back, taken = front ++ back ∧
        first (front ++ (back ++ rest)) = ⟨front, back ++ rest⟩ ∧
        second (back ++ rest) = ⟨back, rest⟩ := by
  constructor
  · intro cut
    rcases cutFirst : first (taken ++ rest) with ⟨front, middle⟩
    rcases cutSecond : second middle with ⟨back, left⟩
    obtain rfl : back ++ left = middle := by
      have same := wholeSecond middle
      rwa [cutSecond] at same
    simp only [Cut.andThen, cutFirst, cutSecond, Cut.after, Cut.mk.injEq] at cut
    obtain ⟨rfl, rfl⟩ := cut
    rw [List.append_assoc] at cutFirst
    exact ⟨front, back, rfl, cutFirst, cutSecond⟩
  · rintro ⟨front, back, rfl, cutFirst, cutSecond⟩
    rw [List.append_assoc, cutFirst]
    simp only [Cut.andThen, cutSecond, Cut.after]

/-- The first cutter has to keep what it takes before whatever the second takes. -/
theorem Keeps.andThen {first second : Text → Cut} {rest other : Text}
    (keepsFirst : ∀ back, Keeps first (back ++ rest) (back ++ other))
    (keepsSecond : Keeps second rest other)
    (wholeSecond : ∀ input, (second input).whole = input) :
    Keeps (fun input => (first input).andThen second) rest other := by
  intro taken before
  obtain ⟨front, back, rfl, cutFirst, cutSecond⟩ := (Cut.andThen_eq_iff first wholeSecond).1 before
  exact (Cut.andThen_eq_iff first wholeSecond).2
    ⟨front, back, rfl, keepsFirst back cutFirst, keepsSecond cutSecond⟩

end Diglot
