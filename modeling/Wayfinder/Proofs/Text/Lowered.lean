import Wayfinder.Proofs.Text.Ranges

/-!
# Lower case has no lower case

Every character of a text in lower case is its own lower case (`lowerAlone_of_mem_lower`), and a text of
such characters stays as it is (`lower_eq_self`): a capital sigma is none of them, so the letters around
a character do not matter any more.

For one character this is a fact about the table: no row gives a number that a row applies to. It is
found out for all the numbers of a row at once, in one pass through the table (`CaseRow.keeps`).
-/

namespace Wayfinder.Text

/-! ## What the table gives -/

namespace CaseRow

/-- The first number that the row gives. -/
def low (r : CaseRow) : Nat :=
  (r.first + r.delta).toNat

/-- The last number that the row gives. -/
def high (r : CaseRow) : Nat :=
  (r.last + r.delta).toNat

/-- No row applies to any of the numbers `lo`, `lo + step` and so on up to `hi`: it ends before them,
begins past them, or has its own numbers between them. The pass ends where `shift` ends. -/
def keeps (lo hi step : Nat) : List CaseRow → Bool
  | [] => true
  | s :: rows =>
    if s.last < lo then keeps lo hi step rows
    else if hi < s.first then true
    else s.first ≤ lo && (lo == hi || step % s.step == 0) && (lo - s.first) % s.step != 0 &&
      keeps lo hi step rows

/-- The pass for many numbers stands for the pass for each of them. -/
theorem shift_of_keeps {lo hi step n : Nat} {rows : List CaseRow} (h : keeps lo hi step rows = true)
    (hlo : lo ≤ n) (hhi : n ≤ hi) (hstep : step ∣ n - lo) : shift rows n = n := by
  induction rows with
  | nil => rfl
  | cons s rows ih =>
    rw [keeps] at h
    rw [shift]
    by_cases hbefore : n < s.first
    · rw [if_pos hbefore]
    rw [if_neg hbefore]
    by_cases hpast : s.last < lo
    · have hnot : ¬ n ≤ s.last := by omega
      rw [if_pos hpast] at h
      rw [decide_eq_false hnot, Bool.false_and, if_neg Bool.false_ne_true, ih h]
    · rw [if_neg hpast, if_neg (by omega)] at h
      simp only [Bool.and_eq_true, Bool.or_eq_true, decide_eq_true_eq, beq_iff_eq, bne_iff_ne] at h
      obtain ⟨⟨⟨hfirst, hsteps⟩, hoff⟩, hrest⟩ := h
      -- the numbers from `lo` on stay in the class of `lo`, which the row does not apply to
      have hclass : (n - lo) % s.step = 0 := by
        rcases hsteps with heq | hsteps
        · rw [show n - lo = 0 by omega, Nat.zero_mod]
        · exact Nat.mod_eq_zero_of_dvd (Nat.dvd_trans (Nat.dvd_of_mod_eq_zero hsteps) hstep)
      have hmod : ((n - s.first) % s.step == 0) = false := by
        rw [beq_eq_false_iff_ne, show n - s.first = (lo - s.first) + (n - lo) by omega, Nat.add_mod, hclass,
          Nat.add_zero, Nat.mod_mod]
        exact hoff
      rw [hmod, Bool.and_false, if_neg Bool.false_ne_true, ih hrest]

theorem shift_cases (rows : List CaseRow) (n : Nat) :
    shift rows n = n ∨ ∃ r ∈ rows, r.Holds n ∧ shift rows n = (n + r.delta).toNat := by
  induction rows with
  | nil => exact Or.inl rfl
  | cons r rows ih =>
    rw [shift]
    split_ifs with hbefore hrow
    · exact Or.inl rfl
    · rw [Bool.and_eq_true, decide_eq_true_eq, beq_iff_eq] at hrow
      exact Or.inr ⟨r, List.mem_cons_self, ⟨by omega, hrow.1, hrow.2⟩, rfl⟩
    · rcases ih with hself | ⟨s, hs, h⟩
      · exact Or.inl hself
      · exact Or.inr ⟨s, List.mem_cons_of_mem _ hs, h⟩

end CaseRow

theorem keeps_lowerRows : ∀ r ∈ lowerRows, 0 ≤ r.first + r.delta ∧
    CaseRow.keeps r.low r.high r.step lowerRows = true ∧ (r.high < 0x130 ∨ 0x130 < r.low) := by
  decide +kernel

/-- What the table gives stays, and it is U+0130 only for U+0130. -/
theorem shift_lowerRows {n m : Nat} (h : CaseRow.shift lowerRows n = m) :
    CaseRow.shift lowerRows m = m ∧ (m = 0x130 → n = 0x130) := by
  rcases CaseRow.shift_cases lowerRows n with hself | ⟨r, hr, ⟨hlo, hhi, hstep⟩, hm⟩
  · obtain rfl : n = m := hself.symm.trans h
    exact ⟨hself, id⟩
  · obtain ⟨hpos, hkeeps, hdotted⟩ := keeps_lowerRows r hr
    obtain rfl : (n + r.delta).toNat = m := hm.symm.trans h
    have hlow : r.low ≤ (n + r.delta).toNat := by
      unfold CaseRow.low
      omega
    have hhigh : (n + r.delta).toNat ≤ r.high := by
      unfold CaseRow.high
      omega
    have hdiff : (n + r.delta).toNat - r.low = n - r.first := by
      unfold CaseRow.low
      omega
    refine ⟨CaseRow.shift_of_keeps hkeeps hlow hhigh ?_, fun hm' => by omega⟩
    rw [hdiff]
    exact Nat.dvd_of_mod_eq_zero hstep

/-! ## One character -/

theorem lowerAlone_lowerChar {c : Char} (hc : c ≠ '\u0130') : lowerAlone (lowerChar c) = [lowerChar c] := by
  have hnot : c.toNat ≠ 0x130 := fun h => hc (Char.toNat_inj.mp h)
  generalize hm : CaseRow.shift lowerRows c.toNat = m
  obtain ⟨hstays, hdotted⟩ := shift_lowerRows hm
  have hchar : lowerChar c = Char.ofNat m := by rw [lowerChar, hm]
  rw [hchar]
  by_cases hvalid : m.isValidChar
  · have htoNat : (Char.ofNat m).toNat = m := by
      rw [Char.ofNat, dif_pos hvalid]
      rfl
    have hplain : Char.ofNat m ≠ '\u0130' := by
      intro h
      rw [h] at htoNat
      exact hnot (hdotted htoNat.symm)
    rw [lowerAlone, if_neg hplain, lowerChar, htoNat, hstays]
  · -- a number that is no character would stand for the character zero
    rw [Char.ofNat, dif_neg hvalid]
    decide +kernel

theorem lowerAlone_of_mem_lowerAlone {c d : Char} (h : d ∈ lowerAlone c) : lowerAlone d = [d] := by
  rw [lowerAlone] at h
  split_ifs at h with hc
  · rcases List.mem_pair.mp h with rfl | rfl
    · decide +kernel
    · decide +kernel
  · rw [List.mem_singleton.mp h]
    exact lowerAlone_lowerChar hc

theorem ne_sigma_of_lowerAlone {c : Char} (h : lowerAlone c = [c]) : c ≠ 'Σ' := by
  rintro rfl
  revert h
  decide +kernel

/-! ## Texts -/

theorem lowerAlone_of_mem_lowerFrom {cased : Bool} {cs : List Char} {d : Char}
    (h : d ∈ lowerFrom cased cs) : lowerAlone d = [d] := by
  induction cs generalizing cased with
  | nil => cases h
  | cons c cs ih =>
    rw [lowerFrom] at h
    rcases List.mem_append.mp h with hhead | hrest
    · split_ifs at hhead with hsigma hfinal
      · rw [List.mem_singleton.mp hhead]
        decide +kernel
      · rw [List.mem_singleton.mp hhead]
        decide +kernel
      · exact lowerAlone_of_mem_lowerAlone hhead
    · exact ih hrest

theorem lowerAlone_of_mem_lower {cs : List Char} {d : Char} (h : d ∈ lower cs) : lowerAlone d = [d] :=
  lowerAlone_of_mem_lowerFrom h

theorem lowerFrom_eq_self {cs : List Char} (h : ∀ c ∈ cs, lowerAlone c = [c]) (cased : Bool) :
    lowerFrom cased cs = cs := by
  induction cs generalizing cased with
  | nil => rfl
  | cons c cs ih =>
    have hc : lowerAlone c = [c] := h c List.mem_cons_self
    rw [lowerFrom, if_neg (ne_sigma_of_lowerAlone hc), hc, ih fun d hd => h d (List.mem_cons_of_mem _ hd),
      List.singleton_append]

/-- A text of characters that are their own lower case stays as it is. -/
theorem lower_eq_self {cs : List Char} (h : ∀ c ∈ cs, lowerAlone c = [c]) : lower cs = cs :=
  lowerFrom_eq_self h false

end Wayfinder.Text
