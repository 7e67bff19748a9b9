/-!
# UTF-8

Characters as octets, and octets as characters with a replacement character for every maximal
ill-formed piece.
-/

namespace Wayfinder.Text

/-! ## Encoding -/

/-- The octets of a scalar value, by the length that its size asks for. -/
def utf8Point (n : Nat) : List UInt8 :=
  if n < 0x80 then [.ofNat n]
  else if n < 0x800 then [.ofNat (0xC0 + n / 0x40), .ofNat (0x80 + n % 0x40)]
  else if n < 0x10000 then
    [.ofNat (0xE0 + n / 0x1000), .ofNat (0x80 + n / 0x40 % 0x40), .ofNat (0x80 + n % 0x40)]
  else
    [.ofNat (0xF0 + n / 0x40000), .ofNat (0x80 + n / 0x1000 % 0x40),
      .ofNat (0x80 + n / 0x40 % 0x40), .ofNat (0x80 + n % 0x40)]

/-- The octets of a character. -/
def utf8Char (c : Char) : List UInt8 :=
  utf8Point c.toNat

/-- The octets of a text. -/
def utf8 (cs : List Char) : List UInt8 :=
  cs.flatMap utf8Char

/-! ## Decoding -/

/-- The replacement character, which stands for octets that encode nothing. -/
def replacement : Char := '\uFFFD'

/-- The bounds that a lead octet sets for the octet after it, and how many octets follow the lead;
overlong forms, surrogates and values past U+10FFFF are shut out here. -/
def leadBounds (b : Nat) : Option (Nat × Nat × Nat) :=
  if 0xC2 ≤ b ∧ b ≤ 0xDF then some (0x80, 0xBF, 1)
  else if b = 0xE0 then some (0xA0, 0xBF, 2)
  else if b = 0xED then some (0x80, 0x9F, 2)
  else if 0xE1 ≤ b ∧ b ≤ 0xEF then some (0x80, 0xBF, 2)
  else if b = 0xF0 then some (0x90, 0xBF, 3)
  else if 0xF1 ≤ b ∧ b ≤ 0xF3 then some (0x80, 0xBF, 3)
  else if b = 0xF4 then some (0x80, 0x8F, 3)
  else none

/-- Reads `left` more continuation octets, the next one within `lo` and `hi`, onto the value
`acc`. Answers with the character and the number of octets taken; a piece that breaks off gives
the replacement character for the octets it had. -/
def continueChar : (left lo hi acc taken : Nat) → List UInt8 → Char × Nat
  | 0, _, _, acc, taken, _ => (Char.ofNat acc, taken)
  | _ + 1, _, _, _, taken, [] => (replacement, taken)
  | left + 1, lo, hi, acc, taken, b :: bs =>
    if lo ≤ b.toNat ∧ b.toNat ≤ hi then
      continueChar left 0x80 0xBF (acc * 0x40 + b.toNat % 0x40) (taken + 1) bs
    else (replacement, taken)

/-- The character at the front of `b :: bs`, and how many octets of `bs` belong to it. -/
def frontChar (b : UInt8) (bs : List UInt8) : Char × Nat :=
  if b.toNat < 0x80 then (Char.ofNat b.toNat, 0)
  else match leadBounds b.toNat with
    | none => (replacement, 0)
    | some (lo, hi, left) => continueChar left lo hi (b.toNat % (0x40 >>> left)) 0 bs

/-- Decodes what follows the first `skip` octets. -/
def decodeFrom : (skip : Nat) → List UInt8 → List Char
  | _, [] => []
  | skip + 1, _ :: bs => decodeFrom skip bs
  | 0, b :: bs => (frontChar b bs).1 :: decodeFrom (frontChar b bs).2 bs

/-- The characters of a list of octets. -/
def decodeUtf8 (bs : List UInt8) : List Char :=
  decodeFrom 0 bs

end Wayfinder.Text
