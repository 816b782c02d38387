import Diglot.Json.Reader
import Diglot.Json.Writer
import Diglot.Table
import Mathlib.Tactic.SplitIfs

/-!
# Reading written JSON

Written values that are made of texts, arrays and objects are read back (`read?_write`). A reader
takes just the text of its value, whatever stands behind it (`Reads`), so that the readers of the
parts give the reader of the whole: one lemma for a character, one for everything that is listed
between brackets, and one case for each kind of value.
-/

set_option autoImplicit false

namespace Diglot.Json

variable {α : Type} {text rest : Text}

/-- Whatever stands behind `text`, the reader takes `text` and gives `value`. -/
def Reads (reader : Text → Option (α × Text)) (text : Text) (value : α) : Prop :=
  ∀ rest, reader (text ++ rest) = some (value, rest)

/-! ## Strings -/

theorem reads_unit? {n : Nat} (whole : unit? text = some (n, [])) : Reads unit? text n := by
  intro rest
  unfold unit? at whole
  split at whole
  · split at whole
    · next a b c d a' b' c' d' =>
      obtain ⟨rfl, rfl⟩ : _ = n ∧ _ = [] := by simpa using whole
      simp [unit?, *]
    · simp at whole
  · simp at whole

/-- The code of a control character has four digits, and they give it back. -/
theorem unit?_hexadecimal : ∀ n < 32, unit? (Text.hexadecimal 4 n) = some (n, []) := by
  decide +kernel

theorem reads_codeEscape? {c : Char} (control : c < ' ') :
    Reads codeEscape? (Text.hexadecimal 4 c.toNat) c := by
  intro rest
  have small : c.toNat < 32 := control
  have digits : Reads unit? (Text.hexadecimal 4 c.toNat) c.toNat :=
    reads_unit? (unit?_hexadecimal c.toNat small)
  unfold codeEscape?
  rw [digits rest]
  simp only
  rw [if_neg (by omega), if_neg (by omega), Char.ofNat_toNat]

/-- A character stands for itself or is escaped. -/
theorem writtenChar_cases (c : Char) :
    (writtenChar c = [c] ∧ c ≠ '"' ∧ c ≠ '\\' ∧ ¬c < ' ') ∨
      ∃ code, writtenChar c = '\\' :: code ∧ Reads escape? code c := by
  unfold writtenChar
  split_ifs with quote backslash backspace feed line carriage tab control
  · exact .inr ⟨['"'], rfl, fun rest => by rw [quote]; rfl⟩
  · exact .inr ⟨['\\'], rfl, fun rest => by rw [backslash]; rfl⟩
  · exact .inr ⟨['b'], rfl, fun rest => by rw [backspace]; rfl⟩
  · exact .inr ⟨['f'], rfl, fun rest => by rw [feed]; rfl⟩
  · exact .inr ⟨['n'], rfl, fun rest => by rw [line]; rfl⟩
  · exact .inr ⟨['r'], rfl, fun rest => by rw [carriage]; rfl⟩
  · exact .inr ⟨['t'], rfl, fun rest => by rw [tab]; rfl⟩
  · exact .inr ⟨'u' :: Text.hexadecimal 4 c.toNat, rfl, reads_codeEscape? control⟩
  · exact .inl ⟨rfl, quote, backslash, control⟩

/-- One character of a string is read, and the string goes on behind it. -/
theorem stringTail?_writtenChar (c : Char) (input : Text) :
    stringTail? (writtenChar c ++ input) =
      (stringTail? input).map fun (text, last) => (c :: text, last) := by
  obtain ⟨same, quote, backslash, control⟩ | ⟨code, same, reads⟩ := writtenChar_cases c
  · rw [same, List.singleton_append, stringTail?, if_neg quote, if_neg backslash, if_neg control]
  · rw [same, List.cons_append, stringTail?, if_neg (by decide), if_pos rfl, reads input]
    have shorter : input.length < ('\\' :: (code ++ input)).length := by
      rw [List.length_cons, List.length_append]
      omega
    exact dif_pos shorter

theorem reads_stringTail? (text : Text) :
    Reads stringTail? (text.flatMap writtenChar ++ ['"']) text := by
  intro rest
  induction text with
  | nil => rw [List.flatMap_nil, List.nil_append, List.singleton_append, stringTail?, if_pos rfl]
  | cons c text ih =>
    rw [List.flatMap_cons, List.append_assoc, List.append_assoc, stringTail?_writtenChar,
      ← List.append_assoc, ih]
    rfl

/-! ## Lists between brackets -/

theorem skipFiller_newLine (level : Nat) (input : Text) :
    skipFiller (newLine level ++ input) = skipFiller input := by
  apply List.dropWhile_append_of_pos
  intro c member
  rcases List.mem_cons.1 member with rfl | member
  · decide
  · obtain rfl := List.eq_of_mem_replicate member
    decide

theorem skipFiller_cons {c : Char} (solid : isFiller c = false) (input : Text) :
    skipFiller (c :: input) = c :: input := by
  simp [skipFiller, solid]

/-- A text begins with a character that is no blank and closes no list. -/
def Opens (text : Text) : Prop :=
  ∃ c later, text = c :: later ∧ isFiller c = false ∧ c ≠ ']' ∧ c ≠ '\x7d'

theorem Opens.skipFiller (opens : Opens text) (level : Nat) (rest : Text) :
    skipFiller (newLine level ++ (text ++ rest)) = text ++ rest := by
  obtain ⟨c, later, rfl, solid, -⟩ := opens
  rw [skipFiller_newLine, List.cons_append, skipFiller_cons solid]

/-- The texts of values, one per line with commas between them, and the closing bracket. -/
def listed (level : Nat) (close : Char) (text : α → Text) : List α → Text
  | [] => [close]
  | value :: values =>
    newLine (level + 1) ++ text value ++
      (values.flatMap fun value => ',' :: newLine (level + 1) ++ text value) ++
        newLine level ++ [close]

section Listed

variable {item : Text → Option (α × Text)} {close : Char} {text : α → Text} {level : Nat}

theorem listed_append (value : α) (values : List α) (rest : Text) :
    listed level close text (value :: values) ++ rest =
      newLine (level + 1) ++ (text value ++
        ((values.flatMap fun value => ',' :: newLine (level + 1) ++ text value) ++
          (newLine level ++ close :: rest))) := by
  simp [listed]

/-- A listed value is read before whatever follows it in the list. -/
theorem items?_listed (closes : close = ']' ∨ close = '\x7d') (value : α) (values : List α)
    (reads : ∀ v ∈ value :: values, Reads item (text v) v)
    (opens : ∀ v ∈ value :: values, Opens (text v)) :
    Reads (items? item close) (listed level close text (value :: values)) (value :: values) := by
  intro rest
  induction values generalizing value with
  | nil =>
    have solid : isFiller close = false := by rcases closes with rfl | rfl <;> decide
    rw [items?, listed_append, (opens value (by simp)).skipFiller, reads value (by simp),
      List.flatMap_nil, List.nil_append]
    dsimp only
    rw [skipFiller_newLine, skipFiller_cons solid]
    dsimp only
    rw [if_pos rfl]
  | cons next values ih =>
    have others := ih next (fun v member => reads v (.tail _ member))
      (fun v member => opens v (.tail _ member))
    have comma : ',' ≠ close := by rcases closes with rfl | rfl <;> decide
    have split : listed level close text (value :: next :: values) ++ rest =
        newLine (level + 1) ++ (text value ++
          (',' :: (listed level close text (next :: values) ++ rest))) := by
      simp [listed]
    rw [split, items?, (opens value (by simp)).skipFiller, reads value (by simp)]
    dsimp only
    rw [skipFiller_cons (by decide)]
    dsimp only
    rw [if_neg comma, if_pos rfl, dif_pos (by simp; omega), others]
    rfl

theorem reads_contents? (closes : close = ']' ∨ close = '\x7d') {values : List α}
    (reads : ∀ v ∈ values, Reads item (text v) v) (opens : ∀ v ∈ values, Opens (text v)) :
    Reads (contents? item close) (listed level close text values) values := by
  intro rest
  cases values with
  | nil =>
    have solid : isFiller close = false := by rcases closes with rfl | rfl <;> decide
    rw [listed, List.singleton_append, contents?, skipFiller_cons solid]
    simp
  | cons value values =>
    obtain ⟨c, later, first, solid, square, curly⟩ := opens value (by simp)
    have goesOn : c ≠ close := by rcases closes with rfl | rfl <;> assumption
    rw [contents?, listed_append, (opens value (by simp)).skipFiller, first, List.cons_append]
    dsimp only
    rw [if_neg goesOn, ← List.cons_append, ← first, ← listed_append]
    exact items?_listed closes value values reads opens rest

end Listed

/-! ## Values -/

def writtenMember (level : Nat) (member : Text × Json) : Text :=
  writtenString member.1 ++ [':', ' '] ++ written level member.2

theorem writtenItems_eq (level : Nat) (items : List Json) :
    writtenItems level items =
      items.flatMap fun item => ',' :: newLine level ++ written level item := by
  induction items with
  | nil => rw [writtenItems, List.flatMap_nil]
  | cons item items ih => rw [writtenItems, ih, List.flatMap_cons]

theorem writtenMembers_eq (level : Nat) (members : List (Text × Json)) :
    writtenMembers level members =
      members.flatMap fun member => ',' :: newLine level ++ writtenMember level member := by
  induction members with
  | nil => rw [writtenMembers, List.flatMap_nil]
  | cons member members ih =>
    obtain ⟨name, value⟩ := member
    rw [writtenMembers, ih, List.flatMap_cons]
    simp [writtenMember]

theorem written_array (level : Nat) (items : List Json) :
    written level (.array items) = '[' :: listed level ']' (written (level + 1)) items := by
  cases items with
  | nil => simp [written, listed]
  | cons item items => simp [written, listed, writtenItems_eq]

theorem written_object (level : Nat) (members : List (Text × Json)) :
    written level (.object members) =
      '\x7b' :: listed level '\x7d' (writtenMember (level + 1)) members := by
  cases members with
  | nil => simp [written, listed]
  | cons member members => simp [written, listed, writtenMember, writtenMembers_eq]

theorem membersOf_of_nodup {members : List (Text × Json)} (nodup : (Table.keys members).Nodup) :
    membersOf members = members := by
  rw [membersOf, Table.overlay_of_nodup (by simpa using nodup), List.nil_append]

/-- Values that are made of texts, with arrays and objects to the given depth. -/
inductive Textual : Nat → Json → Prop
  | string {depth : Nat} (text : Text) : Textual depth (.string text)
  | array {depth : Nat} {items : List Json} (inner : ∀ item ∈ items, Textual depth item) :
    Textual (depth + 1) (.array items)
  | object {depth : Nat} {members : List (Text × Json)}
    (inner : ∀ member ∈ members, Textual depth member.2) (nodup : (Table.keys members).Nodup) :
    Textual (depth + 1) (.object members)

variable {depth level : Nat} {value : Json}

theorem Textual.opens (textual : Textual depth value) (level : Nat) :
    Opens (written level value) := by
  cases textual with
  | string text => exact ⟨'"', _, by rw [written, writtenString, List.cons_append], by decide⟩
  | array inner => exact ⟨'[', _, written_array level _, by decide⟩
  | object inner nodup => exact ⟨'\x7b', _, written_object level _, by decide⟩

theorem reads_member {name : Text} (reads : Reads (value? depth) (written level value) value)
    (opens : Opens (written level value)) :
    Reads (member (value? depth)) (writtenMember level (name, value)) (name, value) := by
  intro rest
  have named := reads_stringTail? name ([':', ' '] ++ written level value ++ rest)
  obtain ⟨c, later, first, solid, -⟩ := opens
  have blank : skipFiller (' ' :: (written level value ++ rest)) = written level value ++ rest := by
    rw [first, List.cons_append]
    exact skipFiller_cons solid _
  have split : writtenMember level (name, value) ++ rest =
      '"' :: (name.flatMap writtenChar ++ ['"'] ++
        ([':', ' '] ++ written level value ++ rest)) := by
    simp [writtenMember, writtenString]
  rw [split, member, named]
  simp only [List.cons_append, List.nil_append]
  rw [skipFiller_cons (by decide)]
  change Option.map _ (value? depth (skipFiller (' ' :: (written level value ++ rest)))) = _
  rw [blank, reads rest]
  rfl

/-- A written value is read back before any rest. The induction is on how the value is made of
texts; the level is that of the line it begins in. -/
theorem Textual.reads (textual : Textual depth value) (level : Nat) :
    Reads (value? depth) (written level value) value := by
  induction textual generalizing level with
  | @string depth text =>
    intro rest
    have read : scalar? (written level (.string text) ++ rest) = some (.string text, rest) := by
      rw [written, writtenString, List.append_assoc, List.cons_append, scalar?,
        ← List.append_assoc, reads_stringTail? text rest]
      rfl
    cases depth with
    | zero => rw [value?, read]
    | succ depth => exact read
  | @array depth items inner ih =>
    intro rest
    have contents : Reads (contents? (value? depth) ']')
        (listed level ']' (written (level + 1)) items) items :=
      reads_contents? (.inl rfl) (fun item member => ih item member (level + 1))
        (fun item member => (inner item member).opens _)
    rw [written_array, List.cons_append, value?, contents rest]
    rfl
  | @object depth members inner nodup ih =>
    intro rest
    have contents : Reads (contents? (member (value? depth)) '\x7d')
        (listed level '\x7d' (writtenMember (level + 1)) members) members :=
      reads_contents? (.inr rfl)
        (fun entry member =>
          reads_member (ih entry member (level + 1)) ((inner entry member).opens _))
        (fun entry member => ⟨'"', _, by rw [writtenMember, writtenString]; rfl, by decide⟩)
    rw [written_object, List.cons_append, value?, contents rest, Option.map_some]
    dsimp only
    rw [membersOf_of_nodup nodup]

/-- A document of texts is read as it was written. -/
theorem read?_write (textual : Textual 1024 value) : read? (write value) = some value := by
  obtain ⟨c, later, first, solid, -⟩ := textual.opens 0
  have all := textual.reads 0 []
  rw [List.append_nil] at all
  have start : skipFiller (write value) = written 0 value := by
    rw [write, first, skipFiller_cons solid]
  rw [read?, start, all]
  rfl

end Diglot.Json
