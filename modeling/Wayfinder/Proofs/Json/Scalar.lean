import Wayfinder.Json.Reader
import Wayfinder.Json.Writer
import Mathlib.Tactic.Common

/-!
# Texts and whole numbers of JSON read back

`text?_quoted`: a text reads back from what is written between its quotes, whatever follows.
`number?_toDigits`: a whole number reads back from its sign and digits, if what follows does not go
on with the number (`EndsNumber`).

A text is read in two passes. The first gives each character its piece (`pieces_escapeChar`), which
is a unit given by number for the controls without a short escape. The second joins the pieces; as
no control is a surrogate, each unit stands for itself (`joinPieces_unit`).
-/

namespace Wayfinder.Json

open Text (hexDigit?)

/-! ## Texts -/

/-- The piece that is read for what is written for a character. -/
def pieceOf (c : Char) : Piece :=
  if c.toNat < 0x20 ∧ c ≠ '\x08' ∧ c ≠ '\x0c' ∧ c ≠ '\n' ∧ c ≠ '\r' ∧ c ≠ '\t' then .unit c.toNat
  else .char c

theorem hexDigit?_digitChar : ∀ n < 16, hexDigit? (Nat.digitChar n) = some n := by
  decide

theorem hex4?_control {n : Nat} (h : n < 0x20) :
    hex4? '0' '0' (Nat.digitChar (n / 16)) (Nat.digitChar (n % 16)) = some n := by
  have hzero : hexDigit? '0' = some 0 := rfl
  have hsum : n / 16 * 16 + n % 16 = n := Nat.div_add_mod' n 16
  simp only [hex4?, hzero, hexDigit?_digitChar (n / 16) (by omega),
    hexDigit?_digitChar (n % 16) (by omega), Option.pure_def, Option.bind_eq_bind,
    Option.bind_some, Nat.zero_mul, Nat.zero_add, hsum]

/-- A backslash and one more character. -/
theorem pieces_short {c e : Char} (hc : c ≠ 'u') (he : shortEscape? c = some e) (cs : List Char) :
    pieces ('\\' :: c :: cs) = (pieces cs).map fun p => (.char e :: p.1, p.2) := by
  rw [pieces.eq_4 c cs (by rintro _ _ _ _ _ rfl; exact absurd rfl hc), he]
  cases pieces cs <;> rfl

/-- A character that is written as it is. -/
theorem pieces_plain {c : Char} (hq : c ≠ '"') (hb : c ≠ '\\') (hc : ¬ c.toNat < 0x20)
    (cs : List Char) :
    pieces (c :: cs) = (pieces cs).map fun p => (.char c :: p.1, p.2) := by
  rw [pieces.eq_5 c cs (by simpa using hq) (by simp [hb]) (by simp [hb]), if_neg (by simp [hc, hb])]
  cases pieces cs <;> rfl

/-- A character gives its piece, whatever follows. -/
theorem pieces_escapeChar (c : Char) (cs : List Char) :
    pieces (escapeChar c ++ cs) = (pieces cs).map fun p => (pieceOf c :: p.1, p.2) := by
  unfold escapeChar
  split
  case h_8 hq hb hb8 hff hnl hcr htab =>
    split_ifs with hc
    · have hpiece : pieceOf c = .unit c.toNat := if_pos ⟨hc, hb8, hff, hnl, hcr, htab⟩
      rw [hpiece]
      show pieces ('\\' :: 'u' :: '0' :: '0' :: _ :: _ :: cs) = _
      rw [pieces.eq_3, hex4?_control hc]
      cases pieces cs <;> rfl
    · rw [List.singleton_append, pieces_plain hq hb hc, pieceOf, if_neg (fun h => hc h.1)]
  all_goals exact pieces_short (by decide) rfl cs

theorem pieces_flatMap_escapeChar (cs rest : List Char) :
    pieces (cs.flatMap escapeChar ++ '"' :: rest) = some (cs.map pieceOf, rest) := by
  induction cs with
  | nil => simp [pieces]
  | cons c cs ih => rw [List.flatMap_cons, List.append_assoc, pieces_escapeChar, ih]; rfl

/-- A unit below the surrogates stands for itself. -/
theorem joinPieces_unit {n : Nat} (hn : n < 0xD800) (ps : List Piece) :
    joinPieces (.unit n :: ps) = (joinPieces ps).map (Char.ofNat n :: ·) := by
  have hlow : ¬ 0xD800 ≤ n := Nat.not_le.mpr hn
  rw [joinPieces.eq_def]
  split
  case h_1 heq | h_2 heq => cases heq
  case h_3 heq | h_4 heq =>
    obtain ⟨⟨⟩, rfl⟩ := List.cons.inj heq
    simp only [hlow, false_and, if_false]

theorem joinPieces_map_pieceOf (cs : List Char) : joinPieces (cs.map pieceOf) = some cs := by
  induction cs with
  | nil => rfl
  | cons c cs ih =>
    rw [List.map_cons, pieceOf]
    split_ifs with h
    · rw [joinPieces_unit (by omega), ih, Char.ofNat_toNat]
      rfl
    · rw [joinPieces, ih]
      rfl

/-- A text reads back from what is written between its quotes. -/
theorem text?_quoted (s : String) (rest : List Char) :
    text? (s.toList.flatMap escapeChar ++ '"' :: rest) = some (some s, rest) := by
  rw [text?, pieces_flatMap_escapeChar, Option.map_some]
  show some ((joinPieces (s.toList.map pieceOf)).map String.ofList, rest) = _
  rw [joinPieces_map_pieceOf, Option.map_some, String.ofList_toList]

/-! ## Whole numbers -/

/-- What follows does not go on with a number. -/
def EndsNumber (rest : List Char) : Prop :=
  ∀ c, rest.head? = some c → c.isDigit = false ∧ c ≠ '.' ∧ c ≠ 'e' ∧ c ≠ 'E'

theorem skipFraction?_of_endsNumber {rest : List Char} (h : EndsNumber rest) :
    skipFraction? rest = some rest := by
  unfold skipFraction?
  split
  · exact absurd rfl (h _ rfl).2.1
  · rfl

theorem skipExponent?_of_endsNumber {rest : List Char} (h : EndsNumber rest) :
    skipExponent? rest = some rest := by
  unfold skipExponent?
  split
  · have hc := (h _ rfl).2.2
    rw [if_neg (by simp [hc])]
  · have hc := (h _ rfl).2.2
    rw [if_neg (by simp [hc])]
  · rfl

theorem digits?_append {ds rest : List Char} (hds : ∀ c ∈ ds, c.isDigit = true) (hne : ds ≠ [])
    (h : EndsNumber rest) : digits? (ds ++ rest) = some (ds, rest) := by
  have hstop : rest.takeWhile Char.isDigit = [] ∧ rest.dropWhile Char.isDigit = rest := by
    cases rest with
    | nil => exact ⟨rfl, rfl⟩
    | cons c cs => simp [(h c rfl).1]
  rw [digits?, List.takeWhile_append_of_pos hds, List.dropWhile_append_of_pos hds, hstop.1, hstop.2,
    List.append_nil, if_neg (by simpa using hne)]

theorem isDigit_of_mem_toDigits {n : Nat} {c : Char} (h : c ∈ Nat.toDigits 10 n) :
    c.isDigit = true :=
  Nat.isDigit_of_mem_toDigits (by decide) (by decide) h

/-- No leading zero: only the digits of zero begin with one. -/
theorem eq_zero_of_head?_toDigits {n : Nat} (h : (Nat.toDigits 10 n).head? = some '0') :
    n = 0 := by
  induction n using Nat.strongRecOn with
  | ind n ih =>
    by_cases hn : n < 10
    · rw [Nat.toDigits_of_lt_base hn] at h
      exact (Nat.digitChar_eq_zero).mp (Option.some.inj h)
    · rw [Nat.toDigits_of_base_le (by decide) (by omega), List.head?_append, Option.or_of_isSome] at h
      · have := ih (n / 10) (by omega) h
        omega
      · simp [Nat.toDigits_ne_nil]

theorem decimal_toDigits (n : Nat) : decimal (Nat.toDigits 10 n) = n := by
  have h := Nat.ofDigitChars_ten_toDigits (n := n)
  rw [Nat.ofDigitChars_eq_foldl] at h
  simpa only [decimal, Nat.mul_comm] using h

/-- A whole number reads back from its sign and digits, unless it is a zero with a sign. -/
theorem number?_toDigits {negative : Bool} {n : Nat} {rest : List Char} (h : EndsNumber rest)
    (hsign : ¬ (negative = true ∧ n = 0)) :
    number? negative (Nat.toDigits 10 n ++ rest) =
      some (int (if negative then -n else n), rest) := by
  have hzero : ¬ ((Nat.toDigits 10 n).length > 1 ∧ (Nat.toDigits 10 n).head? = some '0') := by
    rintro ⟨hlen, hhead⟩
    rw [eq_zero_of_head?_toDigits hhead] at hlen
    exact absurd hlen (by decide)
  have hdigits : digits? (Nat.toDigits 10 n ++ rest) = some (Nat.toDigits 10 n, rest) :=
    digits?_append (fun c hc => isDigit_of_mem_toDigits hc) Nat.toDigits_ne_nil h
  simp [number?, hdigits, hzero, skipFraction?_of_endsNumber h, skipExponent?_of_endsNumber h,
    decimal_toDigits, hsign]

end Wayfinder.Json
