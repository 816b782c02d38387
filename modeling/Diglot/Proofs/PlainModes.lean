import Diglot.Proofs.LocalizedTrip

/-!
# Between the modes without markup

The primary and the hybrid mode differ in the words of names alone. A text whose names have no
primary counterpart should therefore pass between them unchanged, and it does so exactly if it has
no lone backslash (`plain_conversion_iff`): the modes without markup write every backslash of an
operator as a slash, also where localized text had not turned it round before.
-/

set_option autoImplicit false

namespace Diglot

open Markup (plainText)

variable {lexicon : Lexicon} {scope : Scope} {lexeme : Lexeme} {source : Text}

/-- Two ways to write lexemes in as many characters give the same text only if they write each
lexeme alike. -/
theorem forall_eq_of_flatMap_eq {lexemes : List Lexeme} {f g : Lexeme → Text}
    (lengths : ∀ lexeme ∈ lexemes, (f lexeme).length = (g lexeme).length)
    (same : lexemes.flatMap f = lexemes.flatMap g) : ∀ lexeme ∈ lexemes, f lexeme = g lexeme := by
  induction lexemes with
  | nil => simp
  | cons first others ih =>
    rw [List.flatMap_cons, List.flatMap_cons] at same
    obtain ⟨sameFirst, sameOthers⟩ := List.append_inj same (lengths first (by simp))
    have each := ih (fun lexeme member => lengths lexeme (List.mem_cons_of_mem _ member)) sameOthers
    intro lexeme member
    rcases List.mem_cons.1 member with rfl | member
    · exact sameFirst
    · exact each lexeme member

/-- A scanned lexeme without primary counterpart is read as it stands, a lone backslash apart. -/
theorem reading_eq_text (shaped : lexeme.Shaped false) (plain : Uncontrolled lexeme.text)
    (unknown : Scope.full.affects lexeme.kind = true →
      lexicon.counterpart? .toPrimary lexeme.text = none)
    (noBackslash : lexeme ≠ ⟨.operator, ['\\']⟩) : lexeme.reading lexicon .full = lexeme.text := by
  rw [Lexeme.reading, Lexeme.reword_eq_self unknown]
  cases name : Scope.full.affects lexeme.kind with
  | true => exact plainText_of_name name plain
  | false => exact plainText_of_noName shaped plain noBackslash name

theorem reading_backslash (lexicon : Lexicon) (scope : Scope) :
    Lexeme.reading lexicon scope ⟨.operator, ['\\']⟩ = ['/'] := by
  cases scope <;> rfl

/-- Lexemes without primary counterpart make up the text they came from exactly if no lone backslash
is among them. -/
theorem flatMap_reading_eq_iff (uncontrolled : Uncontrolled source)
    (unknown : ∀ lexeme ∈ lexemes false source, Scope.full.affects lexeme.kind = true →
      lexicon.counterpart? .toPrimary lexeme.text = none) :
    (lexemes false source).flatMap (Lexeme.reading lexicon .full) = source ↔
      (⟨.operator, ['\\']⟩ : Lexeme) ∉ lexemes false source := by
  have reads (lexeme : Lexeme) (member : lexeme ∈ lexemes false source)
      (noBackslash : lexeme ≠ ⟨.operator, ['\\']⟩) :
      lexeme.reading lexicon .full = lexeme.text :=
    reading_eq_text (shaped_of_mem member) (uncontrolled.of_mem member) (unknown lexeme member)
      noBackslash
  have text : (lexemes false source).flatMap Lexeme.text = source := concat_lexemes false source
  constructor
  · intro same backslash
    have lengths : ∀ lexeme ∈ lexemes false source,
        (lexeme.reading lexicon .full).length = lexeme.text.length := by
      intro lexeme member
      by_cases lone : lexeme = ⟨.operator, ['\\']⟩
      · rw [lone, reading_backslash]
        rfl
      · rw [reads lexeme member lone]
    have turned := forall_eq_of_flatMap_eq lengths (same.trans text.symm) _ backslash
    rw [reading_backslash] at turned
    simp at turned
  · intro noBackslash
    calc (lexemes false source).flatMap (Lexeme.reading lexicon .full)
        = (lexemes false source).flatMap Lexeme.text :=
          List.flatMap_congr fun lexeme member =>
            reads lexeme member fun lone => noBackslash (lone ▸ member)
      _ = source := text

/-- A text without controls, none of whose names is a localized symbol, stays as it is between the
primary and the hybrid mode exactly if no operator of it is a lone backslash. -/
theorem plain_conversion_iff (lexicon : Lexicon) (source : Text)
    (uncontrolled : Uncontrolled source)
    (primary : ∀ token ∈ scan false source,
      token.lexeme.kind = .keyword ∨ token.lexeme.kind = .identifier →
        token.lexeme.text ∉ lexicon.localizedSymbols) :
    (convert lexicon .primary .hybrid source = source ↔
        ∀ token ∈ scan false source, token.lexeme ≠ ⟨.operator, ['\\']⟩) ∧
      (convert lexicon .hybrid .primary source = source ↔
        ∀ token ∈ scan false source, token.lexeme ≠ ⟨.operator, ['\\']⟩) := by
  have unknown : ∀ lexeme ∈ lexemes false source, Scope.full.affects lexeme.kind = true →
      lexicon.counterpart? .toPrimary lexeme.text = none := by
    intro lexeme member name
    rw [← map_lexeme_scan] at member
    obtain ⟨token, scanned, rfl⟩ := List.mem_map.1 member
    exact Lexicon.toPrimary_eq_none_iff.2 (primary token scanned (affects_full_iff.1 name))
  have noBackslash : (⟨.operator, ['\\']⟩ : Lexeme) ∉ lexemes false source ↔
      ∀ token ∈ scan false source, token.lexeme ≠ ⟨.operator, ['\\']⟩ := by
    rw [← map_lexeme_scan, List.mem_map]
    exact ⟨fun none token scanned lone => none ⟨token, scanned, lone⟩,
      fun none ⟨token, scanned, lone⟩ => none token scanned lone⟩
  have reads := flatMap_reading_eq_iff uncontrolled unknown
  rw [noBackslash] at reads
  constructor
  · rw [convert_toPlain (by decide) (by decide)]
    exact reads
  · rw [convert_toPlain (by decide) (by decide)]
    exact reads

theorem plain_conversion_nested :
    Uncontrolled nestedText ∧
      convert smallLexicon .primary .hybrid nestedText = nestedText ∧
      convert smallLexicon .hybrid .primary nestedText = nestedText := by
  have apart := plain_conversion_iff smallLexicon nestedText (by decide +kernel)
    (by decide +kernel)
  exact ⟨by decide +kernel, apart.1.2 (by decide +kernel), apart.2.2 (by decide +kernel)⟩

def keyPath : Text := "\\.count".toList

/-- The backslash of a key path becomes a slash. -/
theorem plain_conversion_keyPath :
    Uncontrolled keyPath ∧
      (∀ token ∈ scan false keyPath,
        token.lexeme.kind = .keyword ∨ token.lexeme.kind = .identifier →
          token.lexeme.text ∉ (Lexicon.forCompilation .empty).localizedSymbols) ∧
      convert (.forCompilation .empty) .primary .hybrid keyPath = "/.count".toList ∧
      convert (.forCompilation .empty) .hybrid .primary keyPath = "/.count".toList ∧
      "/.count".toList ≠ keyPath := by
  decide +kernel

end Diglot
