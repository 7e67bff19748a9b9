import Wayfinder.Text.Utf8
import Mathlib.Tactic.Common

/-!
# UTF-8 reads back what it writes

`decodeUtf8_utf8`: the octets of a text decode to the text.

The decoder is followed one character at a time. `frontChar_utf8Char` says that the front of
`utf8Char c ++ bs` is `c`, and that the decoder takes exactly the octets of `c`; it splits on the
number of octets, since the bounds on the second one (`leadBounds`) depend on it. A scalar value is
no surrogate and ends at U+10FFFF, which is what keeps the second octet inside those bounds.
-/

namespace Wayfinder.Text

/-! ## Octets as numbers -/

theorem toNat_ofNat_octet {n : Nat} (h : n < 0x100) : (UInt8.ofNat n).toNat = n := by
  rw [UInt8.toNat_ofNat']
  exact Nat.mod_eq_of_lt h

theorem isScalar (c : Char) : c.toNat < 0xD800 ∨ 0xDFFF < c.toNat ∧ c.toNat < 0x110000 :=
  c.valid

/-! ## Lead octets -/

theorem leadBounds_two {n : Nat} (hlow : 0x80 ≤ n) (hhigh : n < 0x800) :
    leadBounds (0xC0 + n / 0x40) = some (0x80, 0xBF, 1) := by
  unfold leadBounds
  rw [if_pos (by omega)]

theorem leadBounds_three {n : Nat} (hlow : 0x800 ≤ n) (hhigh : n < 0x10000)
    (hscalar : n < 0xD800 ∨ 0xDFFF < n) :
    ∃ lo hi, leadBounds (0xE0 + n / 0x1000) = some (lo, hi, 2) ∧
      lo ≤ 0x80 + n / 0x40 % 0x40 ∧ 0x80 + n / 0x40 % 0x40 ≤ hi := by
  unfold leadBounds
  rw [if_neg (by omega)]
  split_ifs with h0 h1 h2
  · exact ⟨0xA0, 0xBF, rfl, by omega, by omega⟩
  · exact ⟨0x80, 0x9F, rfl, by omega, by omega⟩
  · exact ⟨0x80, 0xBF, rfl, by omega, by omega⟩
  all_goals omega

theorem leadBounds_four {n : Nat} (hlow : 0x10000 ≤ n) (hhigh : n < 0x110000) :
    ∃ lo hi, leadBounds (0xF0 + n / 0x40000) = some (lo, hi, 3) ∧
      lo ≤ 0x80 + n / 0x1000 % 0x40 ∧ 0x80 + n / 0x1000 % 0x40 ≤ hi := by
  unfold leadBounds
  rw [if_neg (by omega), if_neg (by omega), if_neg (by omega), if_neg (by omega)]
  split_ifs with h0 h1 h2
  · exact ⟨0x90, 0xBF, rfl, by omega, by omega⟩
  · exact ⟨0x80, 0xBF, rfl, by omega, by omega⟩
  · exact ⟨0x80, 0x8F, rfl, by omega, by omega⟩
  omega

/-! ## Octets after the lead -/

theorem continueChar_cons {lo hi n acc taken left : Nat} (bs : List UInt8) (hlow : lo ≤ n)
    (hhigh : n ≤ hi) (hoctet : n < 0x100) :
    continueChar (left + 1) lo hi acc taken (.ofNat n :: bs) =
      continueChar left 0x80 0xBF (acc * 0x40 + n % 0x40) (taken + 1) bs := by
  rw [continueChar, toNat_ofNat_octet hoctet, if_pos ⟨hlow, hhigh⟩]

theorem continueChar_zero (lo hi acc taken : Nat) (bs : List UInt8) :
    continueChar 0 lo hi acc taken bs = (Char.ofNat acc, taken) := by
  cases bs <;> rfl

theorem frontChar_lead {n lo hi left modulus : Nat} (bs : List UInt8) (hlow : 0x80 ≤ n)
    (hoctet : n < 0x100) (hlead : leadBounds n = some (lo, hi, left))
    (hmodulus : 0x40 >>> left = modulus) :
    frontChar (.ofNat n) bs = continueChar left lo hi (n % modulus) 0 bs := by
  unfold frontChar
  rw [toNat_ofNat_octet hoctet, if_neg (by omega), hlead]
  dsimp only
  rw [hmodulus]

/-- The octets of a character start with the lead at which the decoder finds the character again,
taking all the others. -/
theorem frontChar_utf8Char (c : Char) (bs : List UInt8) :
    ∃ b tail, utf8Char c = b :: tail ∧ frontChar b (tail ++ bs) = (c, tail.length) := by
  have hscalar := isScalar c
  have hchar : ∀ m, m = c.toNat → Char.ofNat m = c := fun m h => by rw [h, Char.ofNat_toNat]
  unfold utf8Char utf8Point
  generalize c.toNat = n at hscalar hchar ⊢
  split_ifs with h1 h2 h3
  · refine ⟨_, [], rfl, ?_⟩
    unfold frontChar
    rw [toNat_ofNat_octet (by omega), if_pos h1, hchar n rfl]
    rfl
  · refine ⟨_, _, rfl, ?_⟩
    rw [frontChar_lead _ (by omega) (by omega) (leadBounds_two (by omega) h2)
      (show 0x40 >>> 1 = 0x20 from rfl)]
    rw [List.cons_append, continueChar_cons _ (by omega) (by omega) (by omega), continueChar_zero,
      hchar _ (by omega)]
    rfl
  · obtain ⟨lo, hi, hlead, hlo, hhi⟩ := leadBounds_three (by omega) h3 (by omega)
    refine ⟨_, _, rfl, ?_⟩
    rw [frontChar_lead _ (by omega) (by omega) hlead (show 0x40 >>> 2 = 0x10 from rfl)]
    rw [List.cons_append, continueChar_cons _ hlo hhi (by omega), List.cons_append,
      continueChar_cons _ (by omega) (by omega) (by omega), continueChar_zero,
      hchar _ (by omega)]
    rfl
  · obtain ⟨lo, hi, hlead, hlo, hhi⟩ := leadBounds_four (n := n) (by omega) (by omega)
    refine ⟨_, _, rfl, ?_⟩
    rw [frontChar_lead _ (by omega) (by omega) hlead (show 0x40 >>> 3 = 0x8 from rfl)]
    rw [List.cons_append, continueChar_cons _ hlo hhi (by omega), List.cons_append,
      continueChar_cons _ (by omega) (by omega) (by omega), List.cons_append,
      continueChar_cons _ (by omega) (by omega) (by omega), continueChar_zero,
      hchar _ (by omega)]
    rfl

/-! ## The whole text -/

theorem decodeFrom_append (tail bs : List UInt8) :
    decodeFrom tail.length (tail ++ bs) = decodeFrom 0 bs := by
  induction tail with
  | nil => rfl
  | cons b tail ih => exact ih

theorem decodeUtf8_utf8Char_append (c : Char) (bs : List UInt8) :
    decodeUtf8 (utf8Char c ++ bs) = c :: decodeUtf8 bs := by
  obtain ⟨b, tail, hoctets, hfront⟩ := frontChar_utf8Char c bs
  unfold decodeUtf8
  rw [hoctets, List.cons_append, decodeFrom, hfront, decodeFrom_append]

/-- **The octets of a text decode to the text.** -/
theorem decodeUtf8_utf8 (cs : List Char) : decodeUtf8 (utf8 cs) = cs := by
  induction cs with
  | nil => rfl
  | cons c cs ih =>
    rw [utf8, List.flatMap_cons, decodeUtf8_utf8Char_append]
    exact congrArg (c :: ·) ih

end Wayfinder.Text
