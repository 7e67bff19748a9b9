import Wayfinder.Url.Form
import Wayfinder.Proofs.Text.Utf8

/-!
# Form-encoded pairs read back

`decodePairs_encodePairs`: pairs written as a query decode to the pairs, whatever characters their
names and values have.

Two steps. A component reads back (`decode_encode`): every octet is written in characters that the
decoder turns into that octet, whatever follows (`unescapeFrom_encodeOctet`). And the separators
survive: an encoded component holds none of them (`not_mem_encode`), so that splitting at ampersands
and at the first equals sign undoes the joining.
-/

namespace Wayfinder.Url

open Wayfinder.Text

/-! ## The characters of an encoded component -/

/-- The characters that encoding writes. -/
def isWritten (c : Char) : Bool :=
  c.isAlphanum || c = '*' || c = '-' || c = '.' || c = '_' || c = '+' || c = '%'

theorem isWritten_ascii {c : Char} (h : isWritten c = true) : c.toNat < 0x80 := by
  delta isWritten Char.isAlphanum Char.isAlpha Char.isUpper Char.isLower Char.isDigit at h
  simp only [Bool.or_eq_true, Bool.and_eq_true, decide_eq_true_eq, UInt32.le_iff_toNat_le,
    ge_iff_le] at h
  rcases h with (((((h | rfl) | rfl) | rfl) | rfl) | rfl) | rfl
  · change (65 ≤ c.toNat ∧ c.toNat ≤ 90 ∨ 97 ≤ c.toNat ∧ c.toNat ≤ 122) ∨
      48 ≤ c.toNat ∧ c.toNat ≤ 57 at h
    omega
  all_goals decide

theorem isUnreserved_ascii : ∀ n < 0x100, isUnreserved (.ofNat n) = true →
    n < 0x80 ∧ n ≠ 0x2B ∧ n ≠ 0x25 := by
  decide +kernel

theorem isWritten_hexUpper : ∀ n < 16, isWritten (hexUpper n) = true := by
  decide

theorem isWritten_encodeOctet {b : UInt8} {c : Char} (h : c ∈ encodeOctet b) :
    isWritten c = true := by
  have hb := b.toNat_lt
  unfold encodeOctet at h
  split_ifs at h with hplain hspace
  · rw [List.mem_singleton] at h
    subst h
    simp only [isUnreserved] at hplain
    simp only [isWritten, hplain, Bool.true_or]
  · rw [List.mem_singleton] at h
    subst h
    rfl
  · simp only [List.mem_cons, List.not_mem_nil, or_false] at h
    rcases h with rfl | rfl | rfl
    · rfl
    · exact isWritten_hexUpper _ (by omega)
    · exact isWritten_hexUpper _ (by omega)

theorem isWritten_encode {cs : List Char} {c : Char} (h : c ∈ encode cs) : isWritten c = true := by
  obtain ⟨b, -, hb⟩ := List.mem_flatMap.mp h
  exact isWritten_encodeOctet hb

/-- Encoding writes no separator. -/
theorem not_mem_encode {d : Char} (hd : isWritten d = false) (cs : List Char) : d ∉ encode cs := by
  intro h
  rw [isWritten_encode h] at hd
  exact Bool.noConfusion hd

/-! ## A component reads back -/

theorem utf8Char_ascii {c : Char} (h : c.toNat < 0x80) : utf8Char c = [.ofNat c.toNat] := by
  unfold utf8Char utf8Point
  rw [if_pos h]

theorem utf8_append (cs ds : List Char) : utf8 (cs ++ ds) = utf8 cs ++ utf8 ds :=
  List.flatMap_append

theorem toNat_ofNat_ascii : ∀ n < 0x80, (Char.ofNat n).toNat = n := by
  decide +kernel

theorem escaped?_hexUpper {n : Nat} (hn : n < 0x100) (bs : List UInt8) :
    escaped? (.ofNat (hexUpper (n / 16)).toNat :: .ofNat (hexUpper (n % 16)).toNat :: bs) =
      some (.ofNat n) := by
  have hdigit : ∀ m < 16, hexValue? (.ofNat (hexUpper m).toNat) = some m := by decide
  have hsum : 16 * (n / 16) + n % 16 = n := Nat.div_add_mod n 16
  simp only [escaped?, hdigit (n / 16) (by omega), hdigit (n % 16) (by omega)]
  exact congrArg (some ∘ UInt8.ofNat) hsum

theorem unescapeFrom_cons_of_ne {b : UInt8} (hplus : b.toNat ≠ 0x2B) (hpercent : b.toNat ≠ 0x25)
    (bs : List UInt8) : unescapeFrom 0 (b :: bs) = b :: unescapeFrom 0 bs := by
  rw [unescapeFrom, if_neg hplus, if_neg hpercent]

/-- An octet is read back from what is written for it, whatever follows. -/
theorem unescapeFrom_encodeOctet (b : UInt8) (bs : List UInt8) :
    unescapeFrom 0 (utf8 (encodeOctet b) ++ bs) = b :: unescapeFrom 0 bs := by
  have hb := b.toNat_lt
  unfold encodeOctet
  split_ifs with hplain hspace
  · obtain ⟨hascii, hplus, hpercent⟩ := isUnreserved_ascii b.toNat hb (by rwa [UInt8.ofNat_toNat])
    have hoctet : utf8 [Char.ofNat b.toNat] = [b] := by
      rw [utf8, List.flatMap_singleton, utf8Char_ascii, toNat_ofNat_ascii _ hascii,
        UInt8.ofNat_toNat]
      rw [toNat_ofNat_ascii _ hascii]
      exact hascii
    rw [hoctet]
    exact unescapeFrom_cons_of_ne hplus hpercent bs
  · have hb : b = 0x20 := UInt8.toNat_inj.mp hspace
    subst hb
    rfl
  · have hhigh := isWritten_ascii (isWritten_hexUpper (b.toNat / 16) (by omega))
    have hlow := isWritten_ascii (isWritten_hexUpper (b.toNat % 16) (by omega))
    have hoctets : utf8 ['%', hexUpper (b.toNat / 16), hexUpper (b.toNat % 16)] =
        [0x25, .ofNat (hexUpper (b.toNat / 16)).toNat, .ofNat (hexUpper (b.toNat % 16)).toNat] := by
      simp only [utf8, List.flatMap_cons, List.flatMap_nil, utf8Char_ascii hhigh,
        utf8Char_ascii hlow]
      rfl
    rw [hoctets, List.cons_append, List.cons_append, List.cons_append, unescapeFrom,
      if_neg (by decide), if_pos (by decide), List.nil_append, escaped?_hexUpper hb,
      UInt8.ofNat_toNat]
    rfl

theorem unescapeFrom_encode (octets : List UInt8) :
    unescapeFrom 0 (utf8 (octets.flatMap encodeOctet)) = octets := by
  induction octets with
  | nil => rfl
  | cons b octets ih =>
    rw [List.flatMap_cons, utf8_append, unescapeFrom_encodeOctet, ih]

/-- A component decodes to the text it was encoded from. -/
theorem decode_encode (cs : List Char) : decode (encode cs) = cs := by
  rw [decode, encode, unescapeFrom_encode, decodeUtf8_utf8]

/-! ## The separators -/

/-- A name and a value with the equals sign between them. -/
def segment (p : String × String) : List Char :=
  encode p.1.toList ++ '=' :: encode p.2.toList

theorem decodeSegment_segment (p : String × String) : decodeSegment (segment p) = p := by
  have hname : ∀ c ∈ encode p.1.toList, decide (c ≠ '=') = true := by
    intro c hc
    refine decide_eq_true fun he => ?_
    subst he
    exact not_mem_encode rfl _ hc
  unfold decodeSegment segment
  rw [List.takeWhile_append_of_pos hname, List.dropWhile_append_of_pos hname,
    List.takeWhile_cons_of_neg (by simp), List.dropWhile_cons_of_neg (by simp), List.append_nil,
    List.drop_succ_cons, List.drop_zero, decode_encode, decode_encode, String.ofList_toList,
    String.ofList_toList]

theorem not_mem_segment {d : Char} (hd : isWritten d = false) (hne : d ≠ '=')
    (p : String × String) : d ∉ segment p := by
  intro h
  rcases List.mem_append.mp h with h | h
  · exact not_mem_encode hd _ h
  · rcases List.mem_cons.mp h with h | h
    · exact hne h
    · exact not_mem_encode hd _ h

theorem segment_ne_nil (p : String × String) : segment p ≠ [] := by
  simp [segment]

theorem toList_encodePairs (ps : List (String × String)) :
    (encodePairs ps).toList = ['&'].intercalate (ps.map segment) :=
  String.toList_ofList

/-- Joining with ampersands and splitting at them undo each other, but for empty parts. -/
theorem decodePairs_intercalate {parts : List (List Char)} (h : ∀ cs ∈ parts, '&' ∉ cs) :
    decodePairs (['&'].intercalate parts) = (parts.filter (!·.isEmpty)).map decodeSegment := by
  by_cases hparts : parts = []
  · subst hparts
    rfl
  · rw [decodePairs, List.splitOn_intercalate _ h hparts]

/-- **Pairs written as a query decode to the pairs.** -/
theorem decodePairs_encodePairs (ps : List (String × String)) :
    decodePairs (encodePairs ps).toList = ps := by
  have hamp : ∀ l ∈ ps.map segment, '&' ∉ l := by
    intro l hl
    obtain ⟨p, -, rfl⟩ := List.mem_map.mp hl
    exact not_mem_segment rfl (by decide) p
  have hfull : ∀ l ∈ ps.map segment, (!l.isEmpty) = true := by
    intro l hl
    obtain ⟨p, -, rfl⟩ := List.mem_map.mp hl
    simp [segment_ne_nil]
  rw [toList_encodePairs, decodePairs_intercalate hamp, List.filter_eq_self.mpr hfull, List.map_map]
  exact (List.map_congr_left fun p _ => decodeSegment_segment p).trans ps.map_id

/-- A query holds written characters and the two separators only. -/
theorem not_mem_encodePairs {d : Char} (hd : isWritten d = false) (heq : d ≠ '=') (hamp : d ≠ '&')
    (ps : List (String × String)) : d ∉ (encodePairs ps).toList := by
  rw [toList_encodePairs]
  induction ps with
  | nil => simp [List.intercalate]
  | cons p ps ih =>
    cases ps with
    | nil =>
      simpa [List.intercalate] using not_mem_segment hd heq p
    | cons p' ps =>
      rw [List.map_cons, List.map_cons, List.intercalate_cons_cons, ← List.map_cons]
      simp only [List.mem_append, List.mem_singleton, not_or]
      exact ⟨⟨not_mem_segment hd heq p, hamp⟩, ih⟩

end Wayfinder.Url
