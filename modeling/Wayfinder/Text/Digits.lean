/-!
# Numbers in digits

Digits up to base 16, in either case, and the range of floating-point numbers.
-/

namespace Wayfinder.Text

/-- The value of a hexadecimal digit. -/
def hexDigit? (c : Char) : Option Nat :=
  if '0' ≤ c ∧ c ≤ '9' then some (c.toNat - '0'.toNat)
  else if 'a' ≤ c ∧ c ≤ 'f' then some (c.toNat - 'a'.toNat + 10)
  else if 'A' ≤ c ∧ c ≤ 'F' then some (c.toNat - 'A'.toNat + 10)
  else none

/-- The value of a digit of a base up to 16. -/
def digit? (base : Nat) (c : Char) : Option Nat :=
  (hexDigit? c).filter (· < base)

/-- The number that digits write, the most significant first. -/
def ofDigits (base : Nat) (ds : List Nat) : Nat :=
  ds.foldl (fun n d => base * n + d) 0

/-- The number that a text of digits writes, if it has a digit and nothing else. -/
def number? (base : Nat) (cs : List Char) : Option Nat :=
  if cs.isEmpty then none else (cs.mapM (digit? base)).map (ofDigits base)

/-- The number `n · 10 ^ e` lies below all that a floating-point number of 64 bits rounds up to
infinity. -/
def fitsFloat (n : Nat) (e : Int) : Bool :=
  let limit := Nat.pow 2 1024 - Nat.pow 2 970
  let size := (Nat.toDigits 10 n).length + e
  if n = 0 || size < 300 then true
  else if size > 310 then false
  else if e < 0 then n < limit * Nat.pow 10 e.natAbs
  else n * Nat.pow 10 e.natAbs < limit

end Wayfinder.Text
