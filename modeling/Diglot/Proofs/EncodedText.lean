import Diglot.Text.Utf8
import Mathlib.Data.List.Basic

/-!
# Encoded text is decoded

The bytes of a text are read back as the text (`decode_encode`). One character's bytes are read
back before any others, a first byte and its continuation bytes at a time.
-/

set_option autoImplicit false

namespace Diglot.Text.Utf8

variable {code unit bits good low high position : Nat} {following : List (Nat × Nat)}
  {bytes rest : Bytes}

theorem toNat_byte {n : Nat} (small : n < 256) : (UInt8.ofNat n).toNat = n :=
  UInt8.toNat_ofNat_of_lt small

theorem toNat_continuation (code unit : Nat) :
    (continuation code unit).toNat = 0x80 + code / unit % 64 := by
  rw [continuation, toNat_byte]
  omega

/-- A continuation byte in its range gives its six bits. -/
theorem tail_continuation (from_low : low ≤ 0x80 + code / unit % 64)
    (to_high : 0x80 + code / unit % 64 ≤ high) :
    tail bits good ((low, high) :: following) (continuation code unit :: bytes) =
      tail (bits * 64 + code / unit % 64) (good + 1) following bytes := by
  rw [tail, toNat_continuation, if_pos ⟨from_low, to_high⟩, Nat.add_sub_cancel_left]

/-- A first byte and the bytes that it promises are one character. -/
theorem decodeFrom_cons {byte : UInt8} {lead : Lead} (first : lead? byte.toNat = some lead)
    (follow : tail lead.bits 1 lead.following bytes = .ok (code, rest)) :
    decodeFrom position (byte :: bytes) =
      (decodeFrom (position + lead.following.length + 1) rest).map (Char.ofNat code :: ·) := by
  rw [decodeFrom]
  simp only [first]
  split
  · next failed => simp [follow] at failed
  · next read =>
    obtain ⟨rfl, rfl⟩ : _ = code ∧ _ = rest := by simpa [follow, eq_comm] using read
    rfl

theorem toNat_valid (c : Char) :
    c.toNat < 0xD800 ∨ 0xDFFF < c.toNat ∧ c.toNat < 0x110000 := c.valid

/-! ## The bytes after a first byte -/

theorem tail_one (rest : Bytes) :
    tail (code / 0x40) 1 [anyTail] (continuation code 1 :: rest) = .ok (code, rest) := by
  rw [anyTail, tail_continuation (by omega) (by omega), tail,
    show code / 0x40 * 64 + code / 1 % 64 = code by omega]

theorem tail_two (from_low : low ≤ 0x80 + code / 0x40 % 64)
    (to_high : 0x80 + code / 0x40 % 64 ≤ high) (rest : Bytes) :
    tail (code / 0x1000) 1 [(low, high), anyTail]
      (continuation code 0x40 :: continuation code 1 :: rest) = .ok (code, rest) := by
  rw [tail_continuation from_low to_high, anyTail, tail_continuation (by omega) (by omega), tail,
    show (code / 0x1000 * 64 + code / 0x40 % 64) * 64 + code / 1 % 64 = code by omega]

theorem tail_three (from_low : low ≤ 0x80 + code / 0x1000 % 64)
    (to_high : 0x80 + code / 0x1000 % 64 ≤ high) (rest : Bytes) :
    tail (code / 0x40000) 1 [(low, high), anyTail, anyTail]
      (continuation code 0x1000 :: continuation code 0x40 :: continuation code 1 :: rest) =
        .ok (code, rest) := by
  rw [tail_continuation from_low to_high, anyTail, tail_continuation (by omega) (by omega),
    tail_continuation (by omega) (by omega), tail,
    show ((code / 0x40000 * 64 + code / 0x1000 % 64) * 64 + code / 0x40 % 64) * 64 +
      code / 1 % 64 = code by omega]

/-! ## The first byte -/

/-- The second of three bytes is restricted after E0, where the code would fit into two, and after
ED, where the surrogates are. -/
theorem lead?_of_three (wide : 0x800 ≤ code) (narrow : code < 0x10000)
    (valid : code < 0xD800 ∨ 0xDFFF < code) :
    ∃ low high, lead? (0xE0 + code / 0x1000) = some ⟨code / 0x1000, [(low, high), anyTail]⟩ ∧
      low ≤ 0x80 + code / 0x40 % 64 ∧ 0x80 + code / 0x40 % 64 ≤ high := by
  by_cases lowest : code / 0x1000 = 0
  · exact ⟨0xA0, 0xBF, by rw [lowest]; rfl, by omega, by omega⟩
  · by_cases surrogate : code / 0x1000 = 0xD
    · exact ⟨0x80, 0x9F, by rw [surrogate]; rfl, by omega, by omega⟩
    · refine ⟨0x80, 0xBF, ?_, by omega, by omega⟩
      rw [lead?, if_neg (by omega), if_neg (by omega), if_neg (by omega), if_neg (by omega),
        if_neg (by omega), if_pos (by omega), Nat.add_sub_cancel_left, anyTail]

/-- The second of four bytes is restricted after F0, where the code would fit into three, and after
F4, where the codes end. -/
theorem lead?_of_four (wide : 0x10000 ≤ code) (valid : code < 0x110000) :
    ∃ low high,
      lead? (0xF0 + code / 0x40000) = some ⟨code / 0x40000, [(low, high), anyTail, anyTail]⟩ ∧
      low ≤ 0x80 + code / 0x1000 % 64 ∧ 0x80 + code / 0x1000 % 64 ≤ high := by
  by_cases lowest : code / 0x40000 = 0
  · exact ⟨0x90, 0xBF, by rw [lowest]; rfl, by omega, by omega⟩
  · by_cases highest : code / 0x40000 = 4
    · exact ⟨0x80, 0x8F, by rw [highest]; rfl, by omega, by omega⟩
    · refine ⟨0x80, 0xBF, ?_, by omega, by omega⟩
      rw [lead?, if_neg (by omega), if_neg (by omega), if_neg (by omega), if_neg (by omega),
        if_neg (by omega), if_neg (by omega), if_neg (by omega), if_pos (by omega),
        Nat.add_sub_cancel_left, anyTail]

/-- What the first byte of a character promises is what its other bytes give. -/
theorem exists_lead (c : Char) (rest : Bytes) :
    ∃ byte bytes lead, encodeChar c ++ rest = byte :: bytes ∧
      lead? byte.toNat = some lead ∧
      tail lead.bits 1 lead.following bytes = .ok (c.toNat, rest) := by
  have valid := toNat_valid c
  rw [encodeChar]
  generalize c.toNat = code at valid
  split_ifs with one two three
  · refine ⟨_, _, ⟨code, []⟩, rfl, ?_, rfl⟩
    rw [toNat_byte (by omega), lead?, if_pos one]
  · refine ⟨_, _, ⟨code / 0x40, [anyTail]⟩, rfl, ?_, tail_one rest⟩
    rw [toNat_byte (by omega), lead?, if_neg (by omega), if_neg (by omega), if_pos (by omega),
      Nat.add_sub_cancel_left]
  · obtain ⟨low, high, first, from_low, to_high⟩ := lead?_of_three (show 0x800 ≤ code by omega)
      three (by omega)
    exact ⟨_, _, _, rfl, by rwa [toNat_byte (by omega)], tail_two from_low to_high rest⟩
  · obtain ⟨low, high, first, from_low, to_high⟩ := lead?_of_four (show 0x10000 ≤ code by omega)
      (by omega)
    exact ⟨_, _, _, rfl, by rwa [toNat_byte (by omega)], tail_three from_low to_high rest⟩

/-! ## Whole texts -/

theorem decodeFrom_encode (position : Nat) (text : Text) :
    decodeFrom position (encode text) = .ok text := by
  induction text generalizing position with
  | nil => rw [encode, List.flatMap_nil, decodeFrom]
  | cons c cs ih =>
    obtain ⟨byte, bytes, lead, same, first, follow⟩ := exists_lead c (encode cs)
    rw [encode, List.flatMap_cons, ← encode, same, decodeFrom_cons first follow, ih,
      Char.ofNat_toNat]
    rfl

/-- The bytes of a text are read as the text. -/
theorem decode_encode (text : Text) : decode (encode text) = .ok text :=
  decodeFrom_encode 0 text

theorem encode_inj {a b : Text} : encode a = encode b ↔ a = b := by
  refine ⟨fun same => ?_, fun same => same ▸ rfl⟩
  have decoded := congrArg decode same
  rw [decode_encode, decode_encode] at decoded
  exact Except.ok.inj decoded

end Diglot.Text.Utf8
