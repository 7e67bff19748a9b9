import Wayfinder.Proofs.Registry.Construction

/-!
# Links from a registry

`links_filled`: a template of a node in a registry has a link if and only if no required parameter is
missing, and the link is then the pattern filled in: no placeholder is left as it stands. Validation
and substitution read a pattern into the same parts, so what the one has seen declared the other finds
in the scope.
-/

namespace Wayfinder.Registry

open Link

/-- **Links from a registry are fully filled in**, in one pass, by values that are copied as they
are. -/
theorem links_filled {ns : List Node} {r : Registry} (h : ofNodes ns = .ok r) {n : Node}
    (hn : n ∈ r.nodes) {t : Template} (ht : t ∈ n.links) (scope : Scope) :
    ((∃ link, t.expand scope = some link) ↔ ∀ p ∈ t.requiredParams, p ∈ scope.keys) ∧
      ((∃ link, t.expand scope = some link) ↔ t.missing scope = []) ∧
      ∀ link, t.expand scope = some link →
        Filled scope t.pattern.toList link.toList ∧
          (∀ link', Filled scope t.pattern.toList link' → link' = link.toList) ∧
          (∀ p ∈ t.placeholders, ∃ value, scope.get? p = some value) ∧
          ∀ before name after, IsName name →
            t.pattern.toList = before ++ written name ++ after →
            ∃ front value back, Filled scope before front ∧
              scope.get? (String.ofList name) = some value ∧ Filled scope after back ∧
              link.toList = front ++ value.toList ++ back := by
  obtain ⟨hfault, rfl⟩ := ofNodes_eq_ok_iff.mp h
  have hdeclared : t.Declared :=
    (acceptable_of_firstFault?_eq_none hfault).links_declared n hn t ht
  refine ⟨?_, ?_, fun link hlink => ?_⟩
  · rw [Template.exists_expand_iff, Template.satisfied_iff]
    simp only [OrderedMap.contains_iff]
  · rw [Template.exists_expand_iff, Template.missing_eq_nil_iff]
  · have hfilled := Template.filled_of_expand hdeclared hlink
    refine ⟨hfilled, fun link' h' => hfilled.unique h', fun p hp => ?_, ?_⟩
    · exact Template.exists_value_of_mem_placeholders hdeclared (Template.satisfied_of_expand hlink) hp
    · intro before name after hname hpattern
      rw [hpattern] at hfilled
      exact hfilled.of_written hname

/-- Braces around a placeholder, a value that looks like one, a name that begins with a digit and a
brace that is not closed. -/
theorem links_filled_braces :
    let t : Template :=
      { pattern := "/\x7b\x7ba\x7d\x7d/\x7bb\x7d\x7ba\x7d\x7b1\x7d\x7ba", requiredParams := ["b", "a"] }
    let n : Node := { id := "map", label := "Map", route := "/map", domain := .overview, links := [t] }
    let r : Registry := ⟨[n], by decide, by decide, by decide⟩
    let scope : Scope := .ofList [("a", "\x7bb\x7d$1"), ("b", "")]
    let link := "/\x7b\x7bb\x7d$1\x7d/\x7bb\x7d$1\x7b1\x7d\x7ba"
    ofNodes [n] = .ok r ∧ n ∈ r.nodes ∧ t ∈ n.links ∧ t.expand scope = some link ∧
      Filled scope t.pattern.toList link.toList := by
  intro t n r scope link
  have h : ofNodes [n] = .ok r := ofNodes_eq_ok_iff.mpr ⟨by decide, rfl⟩
  have hn : n ∈ r.nodes := List.mem_cons_self
  have ht : t ∈ n.links := List.mem_cons_self
  have hlink : t.expand scope = some link := by decide
  exact ⟨h, hn, ht, hlink, ((links_filled h hn ht scope).2.2 link hlink).1⟩

end Wayfinder.Registry
