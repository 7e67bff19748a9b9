import Wayfinder.Proofs.Text.Ranges
import Mathlib.Data.List.TakeWhile

/-!
# Lower case in context

The lower case of a text is made character by character, but for capital sigmas: whether one takes the
final form depends on the letters before and after it (`finalSigma`). `lowerBetween` is the lower case
of a part of a text, and that of the text is put together from its parts (`lowerBetween_append`). A part
has its own lower case if and only if its capital sigmas are final in the text as they are final in
the part alone (`lowerBetween_eq_lower_iff`).
-/

namespace Wayfinder.Text

/-! ## Parts of a text -/

/-- A capital sigma between two texts is final: a cased letter stands before it and none after it,
ignorable characters passed over. -/
def finalSigma (front back : List Char) : Bool :=
  casedAhead front.reverse && !casedAhead back

/-- The lower case of a character between two texts. -/
def lowerAt (front : List Char) (c : Char) (back : List Char) : List Char :=
  if c = 'Σ' then [if finalSigma front back then 'ς' else 'σ'] else lowerAlone c

/-- The lower case of a part of a text, with what stands before and after it. -/
def lowerBetween (front back : List Char) : List Char → List Char
  | [] => []
  | c :: cs => lowerAt front c (cs ++ back) ++ lowerBetween (front ++ [c]) back cs

theorem casedAhead_cons (c : Char) (cs : List Char) :
    casedAhead (c :: cs) = if isCaseIgnorable c then casedAhead cs else isCased c := by
  unfold casedAhead
  rw [List.dropWhile_cons]
  split_ifs <;> rfl

/-- The whole text, or what is left of it. -/
theorem lowerFrom_eq (front cs : List Char) :
    lowerFrom (casedAhead front.reverse) cs = lowerBetween front [] cs := by
  induction cs generalizing front with
  | nil => rfl
  | cons c cs ih =>
    have hstep := casedAhead_cons c front.reverse
    rw [← List.reverse_concat] at hstep
    rw [lowerFrom, lowerBetween, ← hstep, ih, List.append_nil]
    rfl

theorem lower_eq (cs : List Char) : lower cs = lowerBetween [] [] cs :=
  lowerFrom_eq [] cs

theorem lowerBetween_append (front back cs ds : List Char) :
    lowerBetween front back (cs ++ ds) =
      lowerBetween front (ds ++ back) cs ++ lowerBetween (front ++ cs) back ds := by
  induction cs generalizing front with
  | nil => rw [List.append_nil]; rfl
  | cons c cs ih =>
    have hfront : front ++ [c] ++ cs = front ++ c :: cs := by simp
    rw [List.cons_append, lowerBetween, lowerBetween, ih, hfront, List.append_assoc cs,
      List.append_assoc]

theorem lower_append_append (front cs back : List Char) :
    lower (front ++ cs ++ back) =
      lowerBetween [] (cs ++ back) front ++ lowerBetween front back cs ++
        lowerBetween (front ++ cs) [] back := by
  rw [lower_eq, List.append_assoc, lowerBetween_append, lowerBetween_append, List.append_nil,
    List.append_nil, List.nil_append, List.append_assoc]

/-! ## The sigmas of a part -/

/-- Every capital sigma of the part is final in the text exactly if it is final in the part alone. -/
def KeepsSigmas (front cs back : List Char) : Prop :=
  ∀ u v, cs = u ++ 'Σ' :: v → finalSigma (front ++ u) (v ++ back) = finalSigma u v

variable {front cs back : List Char}

theorem lowerBetween_of_keepsSigmas {u : List Char} (h : KeepsSigmas front (u ++ cs) back) :
    lowerBetween (front ++ u) back cs = lowerBetween u [] cs := by
  induction cs generalizing u with
  | nil => rfl
  | cons c cs ih =>
    have hhead : lowerAt (front ++ u) c (cs ++ back) = lowerAt u c (cs ++ []) := by
      unfold lowerAt
      by_cases hc : c = 'Σ'
      · subst hc
        rw [List.append_nil, h u cs rfl]
      · rw [if_neg hc, if_neg hc]
    rw [List.append_cons] at h
    rw [lowerBetween, lowerBetween, hhead, List.append_assoc, ih h]

theorem length_lowerBetween (front back front' back' cs : List Char) :
    (lowerBetween front back cs).length = (lowerBetween front' back' cs).length := by
  induction cs generalizing front front' with
  | nil => rfl
  | cons c cs ih =>
    have hhead : (lowerAt front c (cs ++ back)).length = (lowerAt front' c (cs ++ back')).length := by
      unfold lowerAt
      by_cases hc : c = 'Σ'
      · rw [if_pos hc, if_pos hc, List.length_singleton, List.length_singleton]
      · rw [if_neg hc, if_neg hc]
    rw [lowerBetween, lowerBetween, List.length_append, List.length_append, hhead, ih]

/-- A part keeps its lower case in a text exactly if it keeps its final sigmas. -/
theorem lowerBetween_eq_lower_iff :
    lowerBetween front back cs = lower cs ↔ KeepsSigmas front cs back := by
  constructor
  · rintro h u v rfl
    rw [lower_eq, lowerBetween_append, lowerBetween_append] at h
    have htail := (List.append_inj h (length_lowerBetween _ _ _ _ u)).2
    rw [lowerBetween, lowerBetween, List.append_nil, List.nil_append] at htail
    have hsigma := (List.append_inj htail (by rfl)).1
    rw [lowerAt, lowerAt, if_pos rfl, if_pos rfl, List.cons.injEq] at hsigma
    revert hsigma
    cases finalSigma (front ++ u) (v ++ back) <;> cases finalSigma u v <;> simp
  · intro h
    rw [lower_eq, ← lowerBetween_of_keepsSigmas (u := []) h, List.append_nil]

theorem keepsSigmas_of_not_mem (h : 'Σ' ∉ cs) : KeepsSigmas front cs back := by
  rintro u v rfl
  exact absurd (List.mem_append_right u List.mem_cons_self) h

/-! ## Separators -/

/-- The text is empty or ends with a character that is neither letter nor digit. -/
def EndsApart (cs : List Char) : Prop :=
  ∀ c ∈ cs.getLast?, isAlphanumeric c = false

/-- The text is empty or begins with a character that is neither letter nor digit. -/
def BeginsApart (cs : List Char) : Prop :=
  ∀ c ∈ cs.head?, isAlphanumeric c = false

theorem casedAhead_append_of_apart (h : BeginsApart back) (hback : ∀ c ∈ back.head?, isCaseIgnorable c = false)
    (cs : List Char) : casedAhead (cs ++ back) = casedAhead cs := by
  induction cs with
  | nil =>
    cases back with
    | nil => rfl
    | cons c back =>
      rw [List.nil_append, casedAhead_cons, hback c rfl, not_isCased (h c rfl)]
      rfl
  | cons c cs ih => rw [List.cons_append, casedAhead_cons, casedAhead_cons, ih]

/-- Separators that are not ignorable hide the letters behind them. -/
theorem keepsSigmas_of_not_ignorable (hfront : EndsApart front) (hback : BeginsApart back)
    (hfront' : ∀ c ∈ front.getLast?, isCaseIgnorable c = false)
    (hback' : ∀ c ∈ back.head?, isCaseIgnorable c = false) : KeepsSigmas front cs back := by
  rintro u v -
  rw [finalSigma, finalSigma, casedAhead_append_of_apart hback hback', List.reverse_append,
    casedAhead_append_of_apart]
  · rwa [BeginsApart, List.head?_reverse]
  · rwa [List.head?_reverse]

theorem lowerBetween_separator {c : Char} (h : isAlphanumeric c = false) (front back : List Char) :
    lowerBetween front back [c] = [c] := by
  have hsigma : c ≠ 'Σ' := by
    rintro rfl
    exact absurd h (by decide +kernel)
  rw [lowerBetween, lowerAt, if_neg hsigma, lowerAlone_of_not_alphanumeric h]
  rfl

/-- Lower case leaves the separators at the ends of texts where they are. -/
theorem endsApart_lowerBetween (h : EndsApart cs) : EndsApart (lowerBetween front back cs) := by
  rcases List.eq_nil_or_concat cs with rfl | ⟨ds, c, rfl⟩
  · exact h
  · have hc : isAlphanumeric c = false := h c (by simp)
    rw [List.concat_eq_append, lowerBetween_append, lowerBetween_separator hc]
    intro d hd
    simp only [List.getLast?_concat, Option.mem_some_iff] at hd
    rwa [← hd]

theorem beginsApart_lowerBetween (h : BeginsApart cs) : BeginsApart (lowerBetween front back cs) := by
  cases cs with
  | nil => exact h
  | cons c cs =>
    have hc : isAlphanumeric c = false := h c rfl
    rw [← List.singleton_append, lowerBetween_append, lowerBetween_separator hc]
    intro d hd
    simp only [List.singleton_append, List.head?_cons, Option.mem_some_iff] at hd
    rwa [← hd]

end Wayfinder.Text
