/-!
# The first fault in a list

A list is gone through with a state, which says of the items passed so far what the next one is
checked against (`Tracks`). The pass stops at the first item with a fault; an item without one takes
the state on. So the fault that is found is that of the first item with a fault after the items
before it (`FaultScan.eq_some_iff`). If the lists in which no fault is found are known to be
acceptable, and those with a faulty item not to be, then the pass finds no fault in exactly the
acceptable ones (`FaultScan.eq_none_iff`).
-/

namespace Wayfinder

variable {α ε σ : Type}

/-- A pass over a list for the first fault. -/
structure FaultScan (scan : σ → List α → Option ε) (fault? : σ → α → Option ε) (next : σ → α → σ)
    (Tracks : List α → σ → Prop) (Fault : List α → α → ε → Prop) : Prop where
  nil : ∀ s, scan s [] = none
  cons : ∀ s x xs, scan s (x :: xs) = (fault? s x).or (scan (next s x) xs)
  fault?_eq_some_iff : ∀ {before s x e}, Tracks before s → (fault? s x = some e ↔ Fault before x e)
  concat : ∀ {before s x}, Tracks before s → fault? s x = none → Tracks (before ++ [x]) (next s x)

namespace FaultScan

variable {scan : σ → List α → Option ε} {fault? : σ → α → Option ε} {next : σ → α → σ}
  {Tracks : List α → σ → Prop} {Fault : List α → α → ε → Prop} {before xs : List α} {s : σ} {e : ε}
  (h : FaultScan scan fault? next Tracks Fault)

include h

theorem eq_some_iff (hs : Tracks before s) :
    scan s xs = some e ↔
      ∃ front x back, xs = front ++ x :: back ∧ scan s front = none ∧ Fault (before ++ front) x e := by
  induction xs generalizing before s with
  | nil => simp [h.nil]
  | cons y xs ih =>
    rw [h.cons, Option.or_eq_some_iff]
    constructor
    · rintro (hy | ⟨hy, hxs⟩)
      · refine ⟨[], y, xs, rfl, h.nil s, ?_⟩
        rw [List.append_nil]
        exact (h.fault?_eq_some_iff hs).mp hy
      · obtain ⟨front, x, back, rfl, hfront, hx⟩ := (ih (h.concat hs hy)).mp hxs
        refine ⟨y :: front, x, back, rfl, ?_, ?_⟩
        · rw [h.cons, hy, Option.none_or, hfront]
        · rwa [List.append_assoc, List.singleton_append] at hx
    · rintro ⟨front, x, back, hxs, hfront, hx⟩
      cases front with
      | nil =>
        obtain ⟨rfl, rfl⟩ := List.cons.inj hxs
        rw [List.append_nil] at hx
        exact Or.inl ((h.fault?_eq_some_iff hs).mpr hx)
      | cons y' front =>
        obtain ⟨rfl, rfl⟩ := List.cons.inj hxs
        rw [h.cons, Option.or_eq_none_iff] at hfront
        refine Or.inr ⟨hfront.1, (ih (h.concat hs hfront.1)).mpr ?_⟩
        refine ⟨front, x, back, rfl, hfront.2, ?_⟩
        rwa [List.append_assoc, List.singleton_append]

section acceptable

variable {Acceptable : List α → Prop} (hs : Tracks [] s)
  (hnone : ∀ {xs}, scan s xs = none → Acceptable xs)
  (hfault : ∀ {front x back e}, Fault front x e → ¬ Acceptable (front ++ x :: back))

include hs hnone hfault

theorem eq_none_iff : scan s xs = none ↔ Acceptable xs := by
  refine ⟨hnone, fun hok => ?_⟩
  cases hscan : scan s xs with
  | none => rfl
  | some e =>
    obtain ⟨front, x, back, rfl, -, hx⟩ := (h.eq_some_iff hs).mp hscan
    exact absurd hok (hfault hx)

/-- The first fault is that of the first item after acceptable ones that has a fault. -/
theorem eq_some_iff_acceptable :
    scan s xs = some e ↔
      ∃ front x back, xs = front ++ x :: back ∧ Acceptable front ∧ Fault front x e := by
  rw [h.eq_some_iff hs]
  simp only [h.eq_none_iff hs hnone hfault, List.nil_append]

end acceptable

end FaultScan

end Wayfinder
