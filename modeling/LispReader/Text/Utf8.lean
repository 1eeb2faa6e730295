import LispReader.Text.CodePoint

/-! UTF-8: writing a text as bytes, and reading bytes back strictly, refusing at the first byte
that no well-formed sequence allows. The refusal names the stretch of bytes at fault and one of
three reasons, the way the standard decoder words it. -/

namespace LispReader

namespace Utf8

/-- Why a stretch of bytes is refused. -/
inductive Reason where
  /-- A byte that cannot begin a character: a continuation byte, 0xC0, 0xC1, or 0xF5 and above. -/
  | invalidStart
  /-- A byte that cannot continue the character begun before it. -/
  | invalidContinuation
  /-- The bytes end inside a character. -/
  | unexpectedEnd
  deriving DecidableEq

/-- The words for a reason. -/
def Reason.text : Reason → String
  | .invalidStart => "invalid start byte"
  | .invalidContinuation => "invalid continuation byte"
  | .unexpectedEnd => "unexpected end of data"

/-- The first refused stretch: its first position, its width in bytes, its first byte and why. -/
structure DecodeError where
  /-- Position of the first byte of the stretch. -/
  start : Nat
  /-- Number of bytes in the stretch, at least one. -/
  width : Nat
  /-- The byte the stretch starts with. -/
  first : UInt8
  /-- Why the stretch is refused. -/
  reason : Reason

/-- The standard wording: one byte is shown by value, a longer stretch by its first and last
positions. -/
def DecodeError.message (e : DecodeError) : Text :=
  if e.width = 1 then
    Text.ofString "'utf-8' codec can't decode byte 0x" ++ Text.hex 2 e.first.toNat ++
      Text.ofString " in position " ++ Text.ofNat e.start ++ Text.ofString ": " ++
      Text.ofString e.reason.text
  else
    Text.ofString "'utf-8' codec can't decode bytes in position " ++ Text.ofNat e.start ++
      Text.ofString "-" ++ Text.ofNat (e.start + e.width - 1) ++ Text.ofString ": " ++
      Text.ofString e.reason.text

/-- What a first byte asks of the bytes after it: how many continuation bytes, and the range the
first of them must lie in (later ones lie in 0x80 to 0xBF). The narrow ranges after 0xE0, 0xED,
0xF0 and 0xF4 refuse overlong forms, surrogates and values past the last code point. None for a
byte that cannot begin a character. -/
def lead (b : Nat) : Option (Nat × Nat × Nat) :=
  if b < 0x80 then some (0, 0x80, 0xBF)
  else if b < 0xC2 then none
  else if b < 0xE0 then some (1, 0x80, 0xBF)
  else if b = 0xE0 then some (2, 0xA0, 0xBF)
  else if b = 0xED then some (2, 0x80, 0x9F)
  else if b < 0xF0 then some (2, 0x80, 0xBF)
  else if b = 0xF0 then some (3, 0x90, 0xBF)
  else if b < 0xF4 then some (3, 0x80, 0xBF)
  else if b = 0xF4 then some (3, 0x80, 0x8F)
  else none

/-- The bits a first byte gives to its character's value. -/
def leadBits (b owed : Nat) : Nat :=
  match owed with
  | 0 => b
  | 1 => b % 0x20
  | 2 => b % 0x10
  | _ => b % 0x08

/-- A character begun and not yet finished: where it began, its first byte, the value so far,
the continuation bytes still owed and the range the next one must lie in. -/
structure Pending where
  /-- Position of the first byte. -/
  start : Nat
  /-- The first byte. -/
  first : UInt8
  /-- The value read so far. -/
  value : Nat
  /-- Continuation bytes still owed, at least one. -/
  owed : Nat
  /-- Least allowed next byte. -/
  low : Nat
  /-- Greatest allowed next byte. -/
  high : Nat

/-- The code point of a finished value; the ranges of `lead` keep every value below 0x110000. -/
def finish (value : Nat) : CodePoint :=
  ⟨min value 0x10FFFF, by omega⟩

/-- Reads the bytes from position `pos` on, with `pending` the character left open before them. -/
def decodeFrom (pos : Nat) (pending : Option Pending) : List UInt8 → Except DecodeError Text
  | [] =>
    match pending with
    | none => .ok []
    | some begun => .error ⟨begun.start, pos - begun.start, begun.first, .unexpectedEnd⟩
  | b :: rest =>
    match pending with
    | none =>
      match lead b.toNat with
      | none => .error ⟨pos, 1, b, .invalidStart⟩
      | some (0, _, _) => (decodeFrom (pos + 1) none rest).map (finish b.toNat :: ·)
      | some (owed, low, high) =>
        decodeFrom (pos + 1) (some ⟨pos, b, leadBits b.toNat owed, owed, low, high⟩) rest
    | some begun =>
      if begun.low ≤ b.toNat ∧ b.toNat ≤ begun.high then
        let value := begun.value * 64 + b.toNat % 64
        if begun.owed ≤ 1 then
          (decodeFrom (pos + 1) none rest).map (finish value :: ·)
        else
          decodeFrom (pos + 1) (some { begun with value, owed := begun.owed - 1, low := 0x80, high := 0xBF }) rest
      else
        .error ⟨begun.start, pos - begun.start, begun.first, .invalidContinuation⟩

/-- Reads bytes as UTF-8, or gives the first refused stretch. -/
def decode (bytes : List UInt8) : Except DecodeError Text :=
  decodeFrom 0 none bytes

/-- The UTF-8 bytes of one code point; a surrogate is written like its neighbours. -/
def encodePoint (c : CodePoint) : List UInt8 :=
  let n := c.val
  if n < 0x80 then [n.toUInt8]
  else if n < 0x800 then [(0xC0 + n / 64).toUInt8, (0x80 + n % 64).toUInt8]
  else if n < 0x10000 then
    [(0xE0 + n / 4096).toUInt8, (0x80 + n / 64 % 64).toUInt8, (0x80 + n % 64).toUInt8]
  else
    [(0xF0 + n / 262144).toUInt8, (0x80 + n / 4096 % 64).toUInt8, (0x80 + n / 64 % 64).toUInt8,
      (0x80 + n % 64).toUInt8]

/-- The UTF-8 bytes of a text. -/
def encode (t : Text) : List UInt8 :=
  t.flatMap encodePoint

end Utf8

end LispReader
