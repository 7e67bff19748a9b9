import Wayfinder.Text.Utf8

/-!
# Form-encoded pairs

Names and values as a URL's query carries them. Letters, digits and `*-._` stand for themselves, a
space becomes a plus sign, and every other octet of the UTF-8 form its two hexadecimal digits
after a percent sign. Decoding takes any text: what is no escape stands for itself, and octets
that are no UTF-8 become replacement characters.
-/

namespace Wayfinder.Url

open Wayfinder.Text

/-! ## Encoding -/

/-- Octets that stand for themselves. -/
def isUnreserved (b : UInt8) : Bool :=
  let c := Char.ofNat b.toNat
  c.isAlphanum || c = '*' || c = '-' || c = '.' || c = '_'

/-- A hexadecimal digit, in upper case. -/
def hexUpper (n : Nat) : Char :=
  if n < 10 then Char.ofNat ('0'.toNat + n) else Char.ofNat ('A'.toNat + (n - 10))

/-- An octet as a query writes it. -/
def encodeOctet (b : UInt8) : List Char :=
  if isUnreserved b then [Char.ofNat b.toNat]
  else if b.toNat = 0x20 then ['+']
  else ['%', hexUpper (b.toNat / 16), hexUpper (b.toNat % 16)]

/-- A text as a query writes it. -/
def encode (cs : List Char) : List Char :=
  (utf8 cs).flatMap encodeOctet

/-- Pairs as a query writes them, an ampersand between two of them. -/
def encodePairs (ps : List (String × String)) : String :=
  String.ofList (['&'].intercalate
    (ps.map fun p => encode p.1.toList ++ '=' :: encode p.2.toList))

/-! ## Decoding -/

/-- The value of an octet that is a hexadecimal digit in either case. -/
def hexValue? (b : UInt8) : Option Nat :=
  let n := b.toNat
  if 0x30 ≤ n ∧ n ≤ 0x39 then some (n - 0x30)
  else if 0x41 ≤ n ∧ n ≤ 0x46 then some (n - 0x41 + 10)
  else if 0x61 ≤ n ∧ n ≤ 0x66 then some (n - 0x61 + 10)
  else none

/-- The octet that the two octets after a percent sign stand for. -/
def escaped? : List UInt8 → Option UInt8
  | a :: b :: _ => do return .ofNat (16 * (← hexValue? a) + (← hexValue? b))
  | _ => none

/-- The octets behind the escapes and plus signs, after the first `skip`. -/
def unescapeFrom : (skip : Nat) → List UInt8 → List UInt8
  | _, [] => []
  | skip + 1, _ :: bs => unescapeFrom skip bs
  | 0, b :: bs =>
    if b.toNat = 0x2B then 0x20 :: unescapeFrom 0 bs
    else match if b.toNat = 0x25 then escaped? bs else none with
      | some e => e :: unescapeFrom 2 bs
      | none => b :: unescapeFrom 0 bs

/-- The text that a name or a value of a query stands for. -/
def decode (cs : List Char) : List Char :=
  decodeUtf8 (unescapeFrom 0 (utf8 cs))

/-- The name and the value of a segment: what stands before and after its first equals sign. -/
def decodeSegment (cs : List Char) : String × String :=
  (String.ofList (decode (cs.takeWhile (· ≠ '='))),
    String.ofList (decode ((cs.dropWhile (· ≠ '=')).drop 1)))

/-- The pairs of a query; empty segments give none. -/
def decodePairs (cs : List Char) : List (String × String) :=
  ((cs.splitOn '&').filter (!·.isEmpty)).map decodeSegment

end Wayfinder.Url
