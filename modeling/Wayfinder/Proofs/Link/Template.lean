import Wayfinder.Proofs.Link.Filling
import Wayfinder.Proofs.OrderedMap

/-!
# Links of templates

A template has a link for a scope if and only if every parameter that it requires has a value, which
is when none is missing. If it requires all that its pattern mentions (`Declared`), the link is the
pattern filled in (`filled_of_expand`).
-/

namespace Wayfinder.Link.Template

/-! ## Whether there is a link -/

variable {t : Template} {scope : Scope}

theorem satisfied_iff :
    t.satisfied scope = true ↔ ∀ p ∈ t.requiredParams, scope.contains p = true := by
  rw [satisfied, List.all_eq_true]

theorem unsatisfied_iff :
    t.satisfied scope = false ↔ ∃ p ∈ t.requiredParams, scope.contains p = false := by
  rw [satisfied, List.all_eq_false]
  simp only [Bool.not_eq_true]

theorem satisfied_iff_keys : t.satisfied scope = true ↔ ∀ p ∈ t.requiredParams, p ∈ scope.keys := by
  simp only [satisfied_iff, OrderedMap.contains_iff]

theorem unsatisfied_iff_keys :
    t.satisfied scope = false ↔ ∃ p ∈ t.requiredParams, p ∉ scope.keys := by
  rw [unsatisfied_iff]
  simp only [← Bool.not_eq_true, OrderedMap.contains_iff]

theorem missing_eq_nil_iff : t.missing scope = [] ↔ t.satisfied scope = true := by
  rw [satisfied_iff, missing, List.filter_eq_nil_iff]
  simp only [Bool.not_eq_true', Bool.not_eq_false]

theorem expand_eq_none_iff : t.expand scope = none ↔ t.satisfied scope = false := by
  rw [expand, ite_eq_right_iff, Bool.eq_false_iff]
  constructor
  · intro h hs
    exact absurd (h hs) (by simp)
  · intro h hs
    exact absurd hs h

theorem satisfied_of_expand {link : String} (h : t.expand scope = some link) :
    t.satisfied scope = true := by
  by_contra hs
  rw [expand_eq_none_iff.mpr (Bool.eq_false_iff.mpr hs)] at h
  cases h

theorem exists_expand_iff : (∃ link, t.expand scope = some link) ↔ t.satisfied scope = true := by
  rw [← Option.ne_none_iff_exists', ne_eq, expand_eq_none_iff, Bool.not_eq_false]

/-! ## What the link is -/

/-- The template requires every parameter that its pattern mentions. -/
def Declared (t : Template) : Prop :=
  ∀ p ∈ t.placeholders, p ∈ t.requiredParams

theorem undeclared_eq_nil_iff : t.undeclared = [] ↔ t.Declared := by
  rw [undeclared, List.filter_eq_nil_iff, Declared]
  simp only [decide_eq_true_eq, not_not]

theorem mem_placeholders_of_hole {name : List Char} (h : .hole name ∈ parts t.pattern) :
    String.ofList name ∈ t.placeholders :=
  List.mem_filterMap.mpr ⟨.hole name, h, rfl⟩

theorem exists_value_of_mem_placeholders (hdeclared : t.Declared)
    (hsatisfied : t.satisfied scope = true) {p : String} (hp : p ∈ t.placeholders) :
    ∃ value, scope.get? p = some value :=
  Option.isSome_iff_exists.mp (satisfied_iff.mp hsatisfied p (hdeclared p hp))

theorem filled_of_expand (hdeclared : t.Declared) {link : String}
    (h : t.expand scope = some link) : Filled scope t.pattern.toList link.toList := by
  have hsatisfied := satisfied_of_expand h
  rw [expand, if_pos hsatisfied] at h
  rw [← Option.some.inj h, String.toList_ofList]
  exact filled_parts fun name hname =>
    exists_value_of_mem_placeholders hdeclared hsatisfied (mem_placeholders_of_hole hname)

end Wayfinder.Link.Template
