/-!
# `RecordFilter.Text.Utf8`: reading UTF-8

`decodeUtf8` reads bytes from left to right. Where the bytes are not UTF-8 it gives `none` once
for each longest start of a character that cannot go on. `ofUtf8?` accepts only bytes without
such a place, and `ofUtf8Lossy` writes U+FFFD there.
-/

set_option autoImplicit false

namespace RecordFilter.Text

/-- A character of several bytes that has begun: how many bytes are still to come, the least
and greatest next byte, and the bits read so far. -/
structure Utf8Pending where
  remaining : Nat
  low : Nat
  high : Nat
  bits : Nat

/-- What a first byte gives: a character or a fault, or a character that has begun. The narrow
ranges of the second byte exclude long forms, surrogates and code points above U+10FFFF. -/
def utf8Start (b : Nat) : Option Char ⊕ Utf8Pending :=
  if b < 0x80 then .inl (some (Char.ofNat b))
  else if b < 0xC2 then .inl none
  else if b < 0xE0 then .inr ⟨1, 0x80, 0xBF, b - 0xC0⟩
  else if b = 0xE0 then .inr ⟨2, 0xA0, 0xBF, 0⟩
  else if b = 0xED then .inr ⟨2, 0x80, 0x9F, 0xD⟩
  else if b < 0xF0 then .inr ⟨2, 0x80, 0xBF, b - 0xE0⟩
  else if b = 0xF0 then .inr ⟨3, 0x90, 0xBF, 0⟩
  else if b < 0xF4 then .inr ⟨3, 0x80, 0xBF, b - 0xF0⟩
  else if b = 0xF4 then .inr ⟨3, 0x80, 0x8F, 4⟩
  else .inl none

/-- Reads the bytes after a character that has begun, or after none. -/
def decodeUtf8From : Option Utf8Pending → List UInt8 → List (Option Char)
  | none, [] => []
  | some _, [] => [none]
  | none, b :: bs =>
    match utf8Start b.toNat with
    | .inl c => c :: decodeUtf8From none bs
    | .inr p => decodeUtf8From (some p) bs
  | some p, b :: bs =>
    if p.low ≤ b.toNat ∧ b.toNat ≤ p.high then
      let bits := p.bits * 64 + b.toNat % 64
      if p.remaining ≤ 1 then some (Char.ofNat bits) :: decodeUtf8From none bs
      else decodeUtf8From (some ⟨p.remaining - 1, 0x80, 0xBF, bits⟩) bs
    else
      match utf8Start b.toNat with
      | .inl c => none :: c :: decodeUtf8From none bs
      | .inr q => none :: decodeUtf8From (some q) bs

/-- The characters that the bytes encode, and `none` at each fault. -/
def decodeUtf8 (bytes : List UInt8) : List (Option Char) :=
  decodeUtf8From none bytes

/-- The text that the bytes encode, if they are UTF-8. -/
def ofUtf8? (bytes : List UInt8) : Option String :=
  ((decodeUtf8 bytes).mapM id).map String.ofList

/-- The text that the bytes encode, with U+FFFD at each fault. -/
def ofUtf8Lossy (bytes : List UInt8) : String :=
  String.ofList ((decodeUtf8 bytes).map fun c => c.getD (Char.ofNat 0xFFFD))

end RecordFilter.Text
