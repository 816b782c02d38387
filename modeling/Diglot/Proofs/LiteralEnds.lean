import Diglot.Proofs.Resumption

/-!
# Where literals and escaped names end

A literal or an escaped name that is closed ends at its closer, whatever follows. One that is not
closed ends with its line, with the text or before an interpolation, and takes a directional
control that is put behind it.
-/

set_option autoImplicit false

namespace Diglot

open Text (isNewline)
open Markup (isControl)

@[simp] theorem Cut.after_nil (cut : Cut) : cut.after [] = cut := rfl

theorem Cut.after_after (a b : Text) (cut : Cut) :
    (cut.after b).after a = cut.after (a ++ b) := by
  simp [Cut.after]

@[simp] theorem Literal.Fragment.after_nil (fragment : Literal.Fragment) :
    fragment.after [] = fragment := rfl

theorem Literal.Fragment.after_after (a b : Text) (fragment : Literal.Fragment) :
    (fragment.after b).after a = fragment.after (a ++ b) := by
  simp [Literal.Fragment.after, Cut.after_after]

/-! ## Escaped names -/

/-- A name is closed, or it ends with its line and goes on with whatever is put there. -/
theorem escapedNameTail_cases (cs : Text) :
    (∀ other, escapedNameTail ((escapedNameTail cs).taken ++ other) =
        ⟨(escapedNameTail cs).taken, other⟩) ∨
      (∀ c ∈ (escapedNameTail cs).rest.head?, isNewline c = true) ∧
        ∀ other, escapedNameTail ((escapedNameTail cs).taken ++ other) =
          (escapedNameTail other).after (escapedNameTail cs).taken := by
  induction cs with
  | nil => exact .inr ⟨by simp [escapedNameTail, Cut.nothing], fun other => rfl⟩
  | cons c cs ih =>
    rw [escapedNameTail]
    split
    · next newline => exact .inr ⟨by simp [Cut.nothing, newline], fun other => rfl⟩
    · next inside =>
      split
      · next closes =>
        subst closes
        exact .inl fun other => by simp [escapedNameTail, inside]
      · next opens =>
        rcases ih with closed | ⟨ends, goesOn⟩
        · refine .inl fun other => ?_
          simp [Cut.after, escapedNameTail, inside, opens, closed other]
        · refine .inr ⟨ends, fun other => ?_⟩
          simp [Cut.after, escapedNameTail, inside, opens, goesOn other]

/-! ## Fragments -/

namespace Literal

/-- How a fragment ends. A closed one ends with its quote whatever follows. One that is not closed
goes on with whatever is put behind it if it stops before an opener or a line end, where a slash at
its end must not become an opener; and where the text ends it takes a control that is put there. -/
inductive Fragment.Ends (localized : Bool) (f : Fragment) : Prop
  | closed : f.closed = true → f.cut.taken ≠ [] →
      (∀ other, fragment localized (f.cut.taken ++ other) = ⟨⟨f.cut.taken, other⟩, true⟩) →
      Ends localized f
  | atEnd : f.closed = false → f.cut.rest = [] →
      (∀ x, isControl x = true →
        fragment localized (f.cut.taken ++ [x]) = ⟨⟨f.cut.taken ++ [x], []⟩, false⟩) →
      Ends localized f
  | before : f.closed = false →
      (opensHere localized f.cut.rest = true ∨
        ∃ c cs, f.cut.rest = c :: cs ∧ isNewline c = true) →
      (∀ other, other.head? ≠ some '(' →
        fragment localized (f.cut.taken ++ other) =
          (fragment localized other).after f.cut.taken) →
      Ends localized f

/-- Whether an opener stands here is settled by two characters. -/
theorem opensHere_congr {localized : Bool} {c : Char} {cs ds : Text} (h : cs.head? = ds.head?) :
    opensHere localized (c :: cs) = opensHere localized (c :: ds) := by
  cases cs with
  | nil =>
    cases ds with
    | nil => rfl
    | cons d ds => simp at h
  | cons d cs =>
    cases ds with
    | nil => simp at h
    | cons e ds =>
      obtain rfl : d = e := by simpa using h
      rw [opensHere.eq_def, opensHere.eq_def]
      split <;> simp_all

theorem opensHere_eq_false_of_head {localized : Bool} {c : Char} {cs : Text}
    (h : cs.head? ≠ some '(') : opensHere localized (c :: cs) = false := by
  rw [opensHere.eq_def]
  split <;> simp_all

theorem fragment_quote (localized : Bool) (cs : Text) :
    fragment localized ('"' :: cs) = ⟨⟨['"'], cs⟩, true⟩ := by
  cases cs with
  | nil => rfl
  | cons d ds => simp [fragment, opensHere]

theorem fragment_escape {localized : Bool} {d : Char} (h : d ≠ '(') (cs : Text) :
    fragment localized ('\\' :: d :: cs) = (fragment localized cs).after ['\\', d] := by
  have closed : opensHere localized ('\\' :: d :: cs) = false :=
    opensHere_eq_false_of_head (by simpa using h)
  simp [fragment, closed]

theorem fragment_plain {localized : Bool} {c : Char} {cs : Text}
    (opener : opensHere localized (c :: cs) = false) (escape : c ≠ '\\') (quote : c ≠ '"')
    (inside : isNewline c = false) :
    fragment localized (c :: cs) = (fragment localized cs).after [c] := by
  cases cs with
  | nil => simp [fragment, quote, inside, Fragment.after, Cut.after, Cut.nothing]
  | cons d ds => simp [fragment, opener, escape, quote, inside]

theorem ne_of_isControl {x d : Char} (control : isControl x = true)
    (other : isControl d = false) : x ≠ d := by
  rintro rfl
  simp [control] at other

theorem fragment_control {localized : Bool} {x : Char} (control : isControl x = true) :
    fragment localized [x] = ⟨⟨[x], []⟩, false⟩ := by
  have quote := ne_of_isControl (d := '"') control (by decide)
  simp [fragment, quote, isNewline_eq_false_of_isControl control]

/-- A fragment ends the same way with a front before it, if the front does not change how it is
cut. -/
theorem Fragment.Ends.after {localized : Bool} {f : Fragment} {front : Text}
    (ends : f.Ends localized) (some_front : front ≠ [])
    (again : ∀ other, f.cut.taken ≠ [] ∨ other.head? ≠ some '(' →
      fragment localized (front ++ (f.cut.taken ++ other)) =
        (fragment localized (f.cut.taken ++ other)).after front) :
    (f.after front).Ends localized := by
  cases ends with
  | closed isClosed nonempty same =>
    refine .closed isClosed (by simp [Fragment.after, Cut.after, some_front]) fun other => ?_
    simp [Fragment.after, Cut.after, again other (.inl nonempty), same other]
  | atEnd isOpen atEnd same =>
    refine .atEnd isOpen atEnd fun x control => ?_
    have paren : [x].head? ≠ some '(' := by
      simpa using ne_of_isControl (d := '(') control (by decide)
    simp [Fragment.after, Cut.after, again [x] (.inr paren), same x control]
  | before isOpen stops goesOn =>
    refine .before isOpen stops fun other next => ?_
    simp [Fragment.after, Cut.after, again other (.inr next), goesOn other next]

theorem fragment_ends (localized : Bool) (input : Text) :
    (fragment localized input).Ends localized := by
  fun_induction fragment localized input with
  | case1 => exact .atEnd rfl rfl fun x control => fragment_control control
  | case2 => exact .closed rfl (by simp) fun other => fragment_quote localized other
  | case3 c quote newline => exact .before rfl (.inr ⟨c, [], rfl, newline⟩) fun other _ => rfl
  | case4 c quote newline =>
    refine .atEnd rfl rfl fun x control => ?_
    have paren := ne_of_isControl (d := '(') control (by decide)
    by_cases escape : c = '\\'
    · subst escape
      exact fragment_escape paren []
    · have opener : opensHere localized [c, x] = false :=
        opensHere_eq_false_of_head (by simpa using paren)
      have plain := fragment_plain opener escape quote (by simpa using newline)
      simpa [fragment_control control, Fragment.after, Cut.after] using plain
  | case5 c d cs opener => exact .before rfl (.inl opener) fun other _ => rfl
  | case6 d cs opener ih =>
    have paren : d ≠ '(' := by
      rintro rfl
      simp [opensHere] at opener
    exact ih.after (by simp) fun other _ => fragment_escape paren _
  | case7 =>
    exact .closed rfl (by simp) fun other => fragment_quote localized other
  | case8 c d cs opener escape quote newline =>
    exact .before rfl (.inr ⟨c, d :: cs, rfl, newline⟩) fun other _ => rfl
  | case9 c d cs opener escape quote newline ih =>
    refine ih.after (by simp) fun other next => ?_
    refine fragment_plain ?_ escape quote (by simpa using newline)
    change opensHere localized (c :: ((fragment localized (d :: cs)).cut.taken ++ other)) = false
    -- what is taken behind the character starts as the input does, so it makes no opener either
    by_cases empty : (fragment localized (d :: cs)).cut.taken = []
    · have next : other.head? ≠ some '(' := next.resolve_left (by simp [empty])
      rw [empty]
      exact opensHere_eq_false_of_head next
    · obtain ⟨e, es, taken⟩ := List.exists_cons_of_ne_nil empty
      have whole := whole_fragment localized (d :: cs)
      rw [Cut.whole, taken] at whole
      obtain ⟨rfl, -⟩ := List.cons.inj whole
      rw [taken, opensHere_congr (show (e :: es ++ other).head? = (e :: cs).head? from rfl)]
      simpa using opener

/-! ## Verbatim literals -/

/-- A front that is no longer than a text is a front of all that begins with the text. -/
theorem isPrefixOf_append {front text : Text} (h : front.length ≤ text.length) (other : Text) :
    front.isPrefixOf (text ++ other) = front.isPrefixOf text := by
  rw [Bool.eq_iff_iff, List.isPrefixOf_iff_prefix, List.isPrefixOf_iff_prefix]
  exact ⟨fun h' => List.prefix_of_prefix_length_le h' (List.prefix_append _ _) h,
    fun h' => h'.trans (List.prefix_append _ _)⟩

/-- A foreign last character completes no front. -/
theorem isPrefixOf_concat {front text : Text} {x : Char} (h : x ∉ front) :
    front.isPrefixOf (text ++ [x]) = front.isPrefixOf text := by
  rw [Bool.eq_iff_iff, List.isPrefixOf_iff_prefix, List.isPrefixOf_iff_prefix,
    List.prefix_concat_iff]
  constructor
  · rintro (rfl | h')
    · simp at h
    · exact h'
  · exact .inr

/-- How the body of a verbatim literal ends: with its closer whatever follows, or with the text,
where it takes a foreign character that is put there. -/
inductive VerbatimEnds (closer escape : Text) (cut : Cut) : Prop
  | closed : closer.length ≤ cut.taken.length →
      (∀ other, verbatimBody closer escape (cut.taken ++ other) = ⟨cut.taken, other⟩) →
      VerbatimEnds closer escape cut
  | atEnd : cut.rest = [] →
      (∀ x, x ∉ closer → x ∉ escape →
        verbatimBody closer escape (cut.taken ++ [x]) = ⟨cut.taken ++ [x], []⟩) →
      VerbatimEnds closer escape cut

section VerbatimBody

variable {closer escape : Text} {c : Char} {cs : Text}

theorem verbatimBody_plain (noEscape : escape.isPrefixOf (c :: cs) = false)
    (noCloser : closer.isPrefixOf (c :: cs) = false) :
    verbatimBody closer escape (c :: cs) = (verbatimBody closer escape cs).after [c] := by
  rw [verbatimBody, if_neg (by simp [noEscape]), if_neg (by simp [noCloser])]

theorem verbatimBody_closer (shorter : escape.length ≤ closer.length) (some_closer : closer ≠ [])
    (noEscape : escape.isPrefixOf closer = false) (other : Text) :
    verbatimBody closer escape (closer ++ other) = ⟨closer, other⟩ := by
  have noEscapeHere : escape.isPrefixOf (closer ++ other) = false := by
    rwa [isPrefixOf_append shorter]
  have closesHere : closer.isPrefixOf (closer ++ other) = true :=
    List.isPrefixOf_iff_prefix.2 ⟨other, rfl⟩
  obtain ⟨d, ds, rfl⟩ := List.exists_cons_of_ne_nil some_closer
  rw [List.cons_append] at noEscapeHere closesHere ⊢
  rw [verbatimBody, if_neg (by simp [noEscapeHere]), if_pos closesHere]
  simp

/-- The escape and the character after it are taken; what follows them is cut on its own. -/
theorem verbatimBody_escape (escapes : escape <+: c :: cs) (full : escape.length ≤ cs.length)
    (more : Text) :
    verbatimBody closer escape (c :: (cs.take escape.length ++ more)) =
      (verbatimBody closer escape more).after (c :: cs.take escape.length) := by
  have length : (cs.take escape.length).length = escape.length := by simp [full]
  have again : escape.isPrefixOf (c :: (cs.take escape.length ++ more)) = true := by
    rw [List.isPrefixOf_iff_prefix]
    have inside : escape <+: c :: cs.take escape.length :=
      List.prefix_of_prefix_length_le escapes ⟨cs.drop escape.length, by simp⟩ (by simp; omega)
    exact inside.trans ⟨more, rfl⟩
  rw [verbatimBody, if_pos again]
  simp [length]

/-- An escape with at most one character after it takes the whole text. -/
theorem verbatimBody_escape_short (escapes : escape <+: c :: cs)
    (short : cs.length ≤ escape.length) :
    verbatimBody closer escape (c :: cs) = ⟨c :: cs, []⟩ := by
  have all : cs.take escape.length = cs := List.take_of_length_le short
  have none : cs.drop escape.length = [] := List.drop_eq_nil_of_le short
  rw [verbatimBody, if_pos (List.isPrefixOf_iff_prefix.2 escapes), all, none]
  simp [verbatimBody, Cut.nothing, Cut.after]

/-- Where the text ends, a foreign character is taken. -/
theorem verbatimBody_foreign {x : Char} (some_escape : escape ≠ []) (some_closer : closer ≠ [])
    (noCloser : x ∉ closer) (noEscape : x ∉ escape) :
    verbatimBody closer escape [x] = ⟨[x], []⟩ := by
  have absent {front : Text} (nonempty : front ≠ []) (foreign : x ∉ front) :
      front.isPrefixOf [x] = false := by
    rw [← List.nil_append [x], isPrefixOf_concat foreign]
    cases front with
    | nil => exact absurd rfl nonempty
    | cons => rfl
  rw [verbatimBody_plain (absent some_escape noEscape) (absent some_closer noCloser)]
  simp [verbatimBody, Cut.nothing, Cut.after]

theorem verbatimEnds_escape (escapes : escape <+: c :: cs)
    (ends : VerbatimEnds closer escape (verbatimBody closer escape (cs.drop escape.length))) :
    VerbatimEnds closer escape
      ((verbatimBody closer escape (cs.drop escape.length)).after
        (c :: cs.take escape.length)) := by
  by_cases full : escape.length ≤ cs.length
  · cases ends with
    | closed long same =>
      refine .closed (by simp [Cut.after]; omega) fun other => ?_
      simp [Cut.after, verbatimBody_escape escapes full, same other]
    | atEnd atEnd same =>
      refine .atEnd atEnd fun x noCloser noEscape => ?_
      simp [Cut.after, verbatimBody_escape escapes full, same x noCloser noEscape]
  · -- the text ends with the escape, which then protects what is put behind it
    have none : cs.drop escape.length = [] := List.drop_eq_nil_of_le (by omega)
    have all : cs.take escape.length = cs := List.take_of_length_le (by omega)
    simp only [none, all, verbatimBody]
    refine .atEnd rfl fun x _ _ => ?_
    have escapesMore : escape <+: c :: (cs ++ [x]) := escapes.trans ⟨[x], rfl⟩
    simpa [Cut.after, Cut.nothing] using
      verbatimBody_escape_short escapesMore (by simp; omega)

theorem verbatimEnds_plain (shorter : escape.length ≤ closer.length)
    (noEscape : ¬ escape.isPrefixOf (c :: cs) = true)
    (noCloser : ¬ closer.isPrefixOf (c :: cs) = true)
    (ends : VerbatimEnds closer escape (verbatimBody closer escape cs)) :
    VerbatimEnds closer escape ((verbatimBody closer escape cs).after [c]) := by
  have whole := whole_verbatimBody closer escape cs
  rw [Cut.whole] at whole
  cases ends with
  | closed long same =>
    refine .closed (by simp [Cut.after]; omega) fun other => ?_
    -- a front that is not there before the rest is not there before another text
    have absent {front : Text} (fits : front.length ≤ closer.length)
        (h : ¬ front.isPrefixOf (c :: cs) = true) :
        front.isPrefixOf (c :: ((verbatimBody closer escape cs).taken ++ other)) = false := by
      rw [← whole, ← List.cons_append, isPrefixOf_append (by simp; omega)] at h
      rw [← List.cons_append, isPrefixOf_append (by simp; omega)]
      exact Bool.eq_false_iff.2 h
    have again := verbatimBody_plain (absent shorter noEscape) (absent (Nat.le_refl _) noCloser)
    simp [Cut.after, again, same other]
  | atEnd atEnd same =>
    refine .atEnd atEnd fun x xCloser xEscape => ?_
    rw [atEnd, List.append_nil] at whole
    have absent {front : Text} (foreign : x ∉ front) (h : ¬ front.isPrefixOf (c :: cs) = true) :
        front.isPrefixOf (c :: (cs ++ [x])) = false := by
      rw [← List.cons_append, isPrefixOf_concat foreign]
      exact Bool.eq_false_iff.2 h
    have again := verbatimBody_plain (absent xEscape noEscape) (absent xCloser noCloser)
    rw [whole] at same
    simp [Cut.after, whole, again, same x xCloser xEscape]

theorem verbatimBody_ends (shorter : escape.length ≤ closer.length) (some_escape : escape ≠ [])
    (some_closer : closer ≠ []) (input : Text) :
    VerbatimEnds closer escape (verbatimBody closer escape input) := by
  fun_induction verbatimBody closer escape input with
  | case1 =>
    refine .atEnd rfl fun x noCloser noEscape => ?_
    exact verbatimBody_foreign some_escape some_closer noCloser noEscape
  | case2 c cs escapes ih => exact verbatimEnds_escape (List.isPrefixOf_iff_prefix.1 escapes) ih
  | case3 c cs noEscape closes =>
    refine .closed (Nat.le_refl _) fun other => ?_
    obtain ⟨tail, same⟩ := List.isPrefixOf_iff_prefix.1 closes
    rw [← same, isPrefixOf_append shorter] at noEscape
    exact verbatimBody_closer shorter some_closer (Bool.eq_false_iff.2 noEscape) other
  | case4 c cs noEscape noCloser ih => exact verbatimEnds_plain shorter noEscape noCloser ih

end VerbatimBody

/-- A verbatim literal opens with three quotes or with one. -/
theorem quoteCount_eq (input : Text) :
    quoteCount input = if ['"', '"', '"'].isPrefixOf input then 3 else 1 := by
  rw [quoteCount.eq_def]
  split
  · simp
  · next single =>
    rw [if_neg]
    rw [List.isPrefixOf_iff_prefix]
    rintro ⟨tail, rfl⟩
    exact single tail rfl

/-- The opening of a verbatim literal: number signs and quotes, three or one. -/
def opening (pounds quotes : Nat) : Text :=
  List.replicate pounds '#' ++ List.replicate quotes '"'

/-- A verbatim literal is its opening and its body. -/
theorem verbatim_opening {pounds quotes : Nat} {body : Text}
    (count : quoteCount (List.replicate quotes '"' ++ body) = quotes) :
    verbatim pounds (opening pounds quotes ++ body) =
      (verbatimBody (closer pounds quotes) (escape pounds) body).after
        (opening pounds quotes) := by
  have length : (opening pounds quotes).length = pounds + quotes := by simp [opening]
  have afterPounds : (opening pounds quotes ++ body).drop pounds =
      List.replicate quotes '"' ++ body := by
    rw [opening, List.append_assoc]
    exact List.drop_left' (by simp)
  rw [verbatim]
  simp only [afterPounds, count, List.drop_left' length, List.take_left' length]

/-- The text begins with `pounds` number signs and a quote; without number signs, with three
quotes. -/
def OpensVerbatim (pounds : Nat) (input : Text) : Prop :=
  ∃ tail, input = List.replicate pounds '#' ++ '"' :: tail ∧
    (pounds = 0 → quoteCount ('"' :: tail) = 3)

/-- Where a verbatim literal opens, its opening and its body can be told apart. -/
theorem OpensVerbatim.exists_body {pounds : Nat} {input : Text}
    (opens : OpensVerbatim pounds input) :
    ∃ quotes body, input = opening pounds quotes ++ body ∧
      quoteCount (List.replicate quotes '"' ++ body) = quotes ∧
      (quotes = 3 ∨ quotes = 1 ∧ pounds ≠ 0) := by
  obtain ⟨tail, rfl, triple⟩ := opens
  by_cases three : ['"', '"', '"'].isPrefixOf ('"' :: tail) = true
  · obtain ⟨body, same⟩ := List.isPrefixOf_iff_prefix.1 three
    refine ⟨3, body, ?_, by simp [List.replicate, quoteCount], .inl rfl⟩
    rw [← same]
    simp [opening, List.replicate]
  · have one : quoteCount ('"' :: tail) = 1 := by rw [quoteCount_eq, if_neg three]
    refine ⟨1, tail, by simp [opening], one, .inr ⟨rfl, fun none => ?_⟩⟩
    simp [one] at triple
    exact triple none

/-- How a verbatim literal ends: with its closer whatever follows, or with the text, where it takes
a control that is put there. -/
inductive WholeVerbatimEnds (pounds : Nat) (cut : Cut) : Prop
  | closed : (∀ other, verbatim pounds (cut.taken ++ other) = ⟨cut.taken, other⟩) →
      WholeVerbatimEnds pounds cut
  | atEnd : cut.rest = [] →
      (∀ x, isControl x = true →
        verbatim pounds (cut.taken ++ [x]) = ⟨cut.taken ++ [x], []⟩) →
      WholeVerbatimEnds pounds cut

theorem verbatim_ends {pounds : Nat} {input : Text} (opens : OpensVerbatim pounds input) :
    WholeVerbatimEnds pounds (verbatim pounds input) := by
  obtain ⟨quotes, body, rfl, count, threeOrOne⟩ := opens.exists_body
  rw [verbatim_opening count]
  have some_quote : 0 < quotes := by rcases threeOrOne with rfl | ⟨rfl, -⟩ <;> decide
  have whole := whole_verbatimBody (closer pounds quotes) (escape pounds) body
  rw [Cut.whole] at whole
  -- the quotes of the opening are counted alike as long as no third quote is put behind them
  have recount (more : Text) (same : quotes = 1 →
      ['"', '"', '"'].isPrefixOf ('"' :: more) = ['"', '"', '"'].isPrefixOf ('"' :: body)) :
      quoteCount (List.replicate quotes '"' ++ more) = quotes := by
    rcases threeOrOne with rfl | ⟨rfl, -⟩
    · simp [List.replicate, quoteCount]
    · have counted : quoteCount ('"' :: body) = 1 := count
      have recounted : quoteCount ('"' :: more) = 1 := by
        rw [quoteCount_eq, same rfl, ← quoteCount_eq, counted]
      exact recounted
  have closerLength : (closer pounds quotes).length = quotes + pounds := by simp [closer]
  have ends : VerbatimEnds (closer pounds quotes) (escape pounds) _ :=
    verbatimBody_ends (by simp [closer, escape]; omega) (by simp [escape])
      (by simp [closer]; omega) body
  cases ends with
  | closed long same =>
    refine .closed fun other => ?_
    rw [Cut.after, List.append_assoc, verbatim_opening (recount _ ?_), same other]
    · simp [Cut.after]
    · intro one
      have fits : 2 ≤ (verbatimBody (closer pounds quotes) (escape pounds) body).taken.length := by
        omega
      conv => rhs; rw [← whole]
      rw [← List.cons_append, isPrefixOf_append (by simp; omega), ← List.cons_append,
        isPrefixOf_append (by simp; omega)]
  | atEnd atEnd same =>
    refine .atEnd atEnd fun x control => ?_
    rw [atEnd, List.append_nil] at whole
    have noQuote := ne_of_isControl (d := '"') control (by decide)
    have noPound := ne_of_isControl (d := '#') control (by decide)
    have noBackslash := ne_of_isControl (d := '\\') control (by decide)
    rw [Cut.after, List.append_assoc, verbatim_opening (recount _ ?_), same x]
    · simp [Cut.after]
    · simp [closer, noQuote, noPound]
    · simp [escape, noBackslash, noPound]
    · intro _
      rw [whole, ← List.cons_append, isPrefixOf_concat (by simp [noQuote])]

end Literal

end Diglot
