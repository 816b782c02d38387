import Diglot.Text.Quoted

/-!
# UTF-8

The bytes of a text, and the text of a sequence of bytes. Reading is strict: surrogates, overlong
forms and code points above U+10FFFF are refused, and a refusal names the longest start of a
sequence that was still valid. A raw text with a surrogate has no bytes (`encodeRaw`).
-/

set_option autoImplicit false

namespace Diglot

abbrev Bytes := List UInt8

namespace Text.Utf8

/-- A continuation byte: six bits of the code point, counted in `unit`s, after the mark `10`. -/
def continuation (code unit : Nat) : UInt8 :=
  UInt8.ofNat (0x80 + code / unit % 64)

def encodeChar (c : Char) : Bytes :=
  let code := c.toNat
  if code < 0x80 then [UInt8.ofNat code]
  else if code < 0x800 then [UInt8.ofNat (0xC0 + code / 0x40), continuation code 1]
  else if code < 0x10000 then
    [UInt8.ofNat (0xE0 + code / 0x1000), continuation code 0x40, continuation code 1]
  else
    [UInt8.ofNat (0xF0 + code / 0x40000), continuation code 0x1000, continuation code 0x40,
     continuation code 1]

def encode (text : Text) : Bytes :=
  text.flatMap encodeChar

/-- Why a raw text has no bytes: its first run of surrogates, which begins at `position`. -/
structure Unencodable where
  position : Nat
  surrogates : RawText
  deriving DecidableEq, Repr

/-- The refusal in words. Only a single surrogate is quoted. -/
def Unencodable.message (u : Unencodable) : String :=
  let first := u.position
  match u.surrogates with
  | [point] =>
    let value := point.escaped.toStr
    s!"'utf-8' codec can't encode character '{value}' in position {first}: surrogates not allowed"
  | points =>
    let last := first + points.length - 1
    s!"'utf-8' codec can't encode characters in position {first}-{last}: surrogates not allowed"

/-- The first run of surrogates. -/
def Unencodable.of (raw : RawText) : Unencodable :=
  let front := raw.takeWhile (!·.isSurrogate)
  ⟨front.length, (raw.drop front.length).takeWhile (·.isSurrogate)⟩

/-- The bytes of a raw text, or the surrogates because of which it has none. -/
def encodeRaw (raw : RawText) : Except Unencodable Bytes :=
  if raw.hasSurrogate then .error (.of raw) else .ok (encode raw.toText)

theorem encodeRaw_raw (text : Text) : encodeRaw text.raw = .ok (encode text) := by
  simp [encodeRaw]

/-- What a first byte promises: its share of the code point, and the range of each byte that must
follow. -/
structure Lead where
  bits : Nat
  following : List (Nat × Nat)
  deriving DecidableEq, Repr

def anyTail : Nat × Nat := (0x80, 0xBF)

/-- Reads a first byte. The second byte is restricted after E0 and F0 (shorter forms exist), after
ED (surrogates) and after F4 (above U+10FFFF). -/
def lead? (byte : Nat) : Option Lead :=
  if byte < 0x80 then some ⟨byte, []⟩
  else if byte < 0xC2 then none
  else if byte < 0xE0 then some ⟨byte - 0xC0, [anyTail]⟩
  else if byte = 0xE0 then some ⟨0, [(0xA0, 0xBF), anyTail]⟩
  else if byte = 0xED then some ⟨0xD, [(0x80, 0x9F), anyTail]⟩
  else if byte < 0xF0 then some ⟨byte - 0xE0, [anyTail, anyTail]⟩
  else if byte = 0xF0 then some ⟨0, [(0x90, 0xBF), anyTail, anyTail]⟩
  else if byte < 0xF4 then some ⟨byte - 0xF0, [anyTail, anyTail, anyTail]⟩
  else if byte = 0xF4 then some ⟨4, [(0x80, 0x8F), anyTail, anyTail]⟩
  else none

/-- Why bytes are no text. -/
inductive Reason
  | invalidStart
  | invalidContinuation
  | unexpectedEnd
  deriving DecidableEq, Repr

def Reason.message : Reason → String
  | .invalidStart => "invalid start byte"
  | .invalidContinuation => "invalid continuation byte"
  | .unexpectedEnd => "unexpected end of data"

/-- Bytes that are no text: the blamed bytes begin at `position`, the first is `byte`, and there
are `count` of them. -/
structure Malformed where
  reason : Reason
  position : Nat
  byte : UInt8
  count : Nat
  deriving DecidableEq, Repr

/-- The refusal in words. Only a single blamed byte is quoted. -/
def Malformed.message (m : Malformed) : String :=
  let reason := m.reason.message
  let first := m.position
  if m.count = 1 then
    let value := (hexByte m.byte).toStr
    s!"'utf-8' codec can't decode byte 0x{value} in position {first}: {reason}"
  else
    let last := m.position + m.count - 1
    s!"'utf-8' codec can't decode bytes in position {first}-{last}: {reason}"
where
  /-- The two hexadecimal digits of a byte. -/
  hexByte (byte : UInt8) : Text :=
    (if byte < 16 then ['0'] else []) ++ Nat.toDigits 16 byte.toNat

/-- Reads the promised continuation bytes: the code point and the bytes after it, or why not and
how many of the bytes were good. -/
def tail (bits good : Nat) : List (Nat × Nat) → Bytes → Except (Reason × Nat) (Nat × Bytes)
  | [], bytes => .ok (bits, bytes)
  | _ :: _, [] => .error (.unexpectedEnd, good)
  | (low, high) :: following, byte :: bytes =>
    if low ≤ byte.toNat ∧ byte.toNat ≤ high then
      tail (bits * 64 + (byte.toNat - 0x80)) (good + 1) following bytes
    else
      .error (.invalidContinuation, good)

/-- Reading continuation bytes never gives bytes back. -/
theorem length_of_tail {bits good code : Nat} {following : List (Nat × Nat)} {bytes rest : Bytes}
    (h : tail bits good following bytes = .ok (code, rest)) : rest.length ≤ bytes.length := by
  induction following generalizing bits good bytes with
  | nil =>
    obtain ⟨-, rfl⟩ : bits = code ∧ bytes = rest := by simpa [tail] using h
    exact Nat.le_refl _
  | cons range following ih =>
    cases bytes with
    | nil => simp [tail] at h
    | cons byte bytes =>
      rw [tail] at h
      split at h
      · exact Nat.le_succ_of_le (ih h)
      · simp at h

/-- Reads bytes that begin at `position`. -/
def decodeFrom (position : Nat) (bytes : Bytes) : Except Malformed Text :=
  match bytes with
  | [] => .ok []
  | byte :: bytes =>
    match lead? byte.toNat with
    | none => .error ⟨.invalidStart, position, byte, 1⟩
    | some lead =>
      match h : tail lead.bits 1 lead.following bytes with
      | .error (reason, count) => .error ⟨reason, position, byte, count⟩
      | .ok (code, rest) =>
        (decodeFrom (position + lead.following.length + 1) rest).map (Char.ofNat code :: ·)
termination_by bytes.length
decreasing_by exact Nat.lt_succ_of_le (length_of_tail h)

/-- The text of the bytes, or where they fail to be one. -/
def decode (bytes : Bytes) : Except Malformed Text :=
  decodeFrom 0 bytes

end Text.Utf8

end Diglot
