import Wayfinder.Proofs.Json.Scalar
import Mathlib.Data.List.DropRight
import Mathlib.Data.List.Forall2

/-!
# Texts that read as a value

A text reads as a value if the reader gives the value for it, whatever follows that does not go on
with a number, and the number of its characters is fuel enough (`Reads`). `reads_int` and its like
say it of the leaves; `reads_arr` and `reads_obj` carry it from the parts to the whole, with blanks
before every part and before the closing bracket (`Reads.append`).
-/

namespace Wayfinder.Json

/-! ## Blanks -/

/-- Blanks that may stand around a value. -/
def Blank (bs : List Char) : Prop := ∀ c ∈ bs, isSpace c = true

theorem blank_nil : Blank [] := by
  intro c hc
  cases hc

theorem skipSpace_append {bs : List Char} (h : Blank bs) (cs : List Char) :
    skipSpace (bs ++ cs) = skipSpace cs :=
  List.dropWhile_append_of_pos h

theorem skipSpace_skipSpace (cs : List Char) : skipSpace (skipSpace cs) = skipSpace cs :=
  List.dropWhile_idempotent _ _

theorem value?_skipSpace (fuel : Nat) (cs : List Char) :
    value? fuel (skipSpace cs) = value? fuel cs := by
  cases fuel with
  | zero => rfl
  | succ fuel => rw [value?.eq_2, value?.eq_2, skipSpace_skipSpace]

theorem items?_skipSpace (fuel : Nat) (cs : List Char) :
    items? fuel (skipSpace cs) = items? fuel cs := by
  cases fuel with
  | zero => rfl
  | succ fuel => rw [items?.eq_2, items?.eq_2, value?_skipSpace]

theorem members?_skipSpace (fuel : Nat) (cs : List Char) :
    members? fuel (skipSpace cs) = members? fuel cs := by
  cases fuel with
  | zero => rfl
  | succ fuel => rw [members?.eq_2, members?.eq_2, skipSpace_skipSpace]

/-! ## Values by their first character -/

theorem value?_bracket (fuel : Nat) (cs : List Char) :
    value? (fuel + 1) ('[' :: cs) =
      match skipSpace cs with
      | ']' :: cs => some (arr [], cs)
      | cs => (items? fuel cs).map fun (vs, cs) => (arr vs, cs) :=
  rfl

theorem value?_brace (fuel : Nat) (cs : List Char) :
    value? (fuel + 1) ('\x7b' :: cs) =
      match skipSpace cs with
      | '\x7d' :: cs => some (obj [], cs)
      | cs => (members? fuel cs).map fun (ms, cs) => (objOf? ms, cs) :=
  rfl

/-- No item begins with the closing bracket. -/
theorem value?_list {fuel : Nat} {cs rest : List Char} {vs : List Json}
    (h : items? fuel cs = some (vs, rest)) :
    value? (fuel + 1) ('[' :: cs) = some (arr vs, rest) := by
  rw [← items?_skipSpace] at h
  rw [value?_bracket]
  split
  case h_1 cs' heq =>
    rw [heq] at h
    cases fuel with
    | zero => cases h
    | succ fuel => cases fuel <;> cases h
  case h_2 => rw [h]; rfl

/-- No member begins with the closing brace. -/
theorem value?_object {fuel : Nat} {cs rest : List Char} {ms : List (Option String × Json)}
    (h : members? fuel cs = some (ms, rest)) :
    value? (fuel + 1) ('\x7b' :: cs) = some (objOf? ms, rest) := by
  rw [← members?_skipSpace] at h
  rw [value?_brace]
  split
  case h_1 cs' heq =>
    rw [heq] at h
    cases fuel <;> cases h
  case h_2 => rw [h]; rfl

theorem value?_digit {fuel : Nat} {c : Char} (h : c.isDigit = true) (cs : List Char) :
    value? (fuel + 1) (c :: cs) = number? false (c :: cs) := by
  have hs : isSpace c = false := by
    rw [Bool.eq_false_iff]
    intro hc
    simp only [isSpace, Bool.or_eq_true, decide_eq_true_eq] at hc
    obtain ((rfl | rfl) | rfl) | rfl := hc <;> exact absurd h (by decide)
  have hskip : skipSpace (c :: cs) = c :: cs := List.dropWhile_cons_of_neg (by rw [hs]; decide)
  rw [value?.eq_2, hskip]
  split
  case h_8 => rfl
  -- every other case fixes a first character that is no digit
  all_goals
    rename_i heq
    obtain ⟨rfl, -⟩ := List.cons.inj heq
    exact absurd h (by decide)

/-! ## Texts of values -/

/-- A text between its quotes. -/
def quoted (s : String) : List Char := '"' :: (s.toList.flatMap escapeChar ++ ['"'])

theorem toList_quote (s : String) : (quote s).toList = quoted s := String.toList_ofList

/-- The text reads as the value, whatever follows that does not go on with a number. The number of
its characters is fuel enough. -/
def Reads (v : Json) (t : List Char) : Prop :=
  ∀ fuel rest, t.length ≤ fuel → EndsNumber rest → value? fuel (t ++ rest) = some (v, rest)

theorem Reads.append {v : Json} {bs t : List Char} (hb : Blank bs) (h : Reads v t) :
    Reads v (bs ++ t) := by
  intro fuel rest hfuel hrest
  rw [List.length_append] at hfuel
  rw [← value?_skipSpace, List.append_assoc, skipSpace_append hb, value?_skipSpace]
  exact h fuel rest (by omega) hrest

theorem Reads.intro {v : Json} {c : Char} {t : List Char}
    (h : ∀ fuel rest, t.length ≤ fuel → EndsNumber rest →
      value? (fuel + 1) (c :: (t ++ rest)) = some (v, rest)) : Reads v (c :: t) := by
  intro fuel rest hfuel hrest
  cases fuel with
  | zero => exact absurd hfuel (by simp)
  | succ fuel => exact h fuel rest (Nat.le_of_succ_le_succ hfuel) hrest

theorem reads_null : Reads null ['n', 'u', 'l', 'l'] :=
  .intro fun _ _ _ _ => rfl

theorem reads_bool (b : Bool) : Reads (bool b) (if b then "true" else "false").toList := by
  cases b
  · exact .intro fun _ _ _ _ => rfl
  · exact .intro fun _ _ _ _ => rfl

theorem reads_str (s : String) : Reads (str s) (quoted s) := by
  refine .intro fun fuel rest _ _ => ?_
  show (text? _).map _ = _
  rw [List.append_assoc, List.singleton_append, text?_quoted]
  rfl

theorem reads_nat (n : Nat) : Reads (int n) (Nat.toDigits 10 n) := by
  cases hds : Nat.toDigits 10 n with
  | nil => exact absurd hds Nat.toDigits_ne_nil
  | cons d ds =>
    have hd : d.isDigit = true := isDigit_of_mem_toDigits (hds ▸ List.mem_cons_self)
    refine .intro fun fuel rest _ hrest => ?_
    rw [value?_digit hd, ← List.cons_append, ← hds, number?_toDigits hrest (by simp)]
    rfl

theorem reads_int (n : Int) : Reads (int n) (toString n).toList := by
  cases n with
  | ofNat n =>
    show Reads (int n) (Nat.repr n).toList
    rw [Nat.toList_repr]
    exact reads_nat n
  | negSucc n =>
    show Reads (int (Int.negSucc n)) ("-" ++ Nat.repr (n + 1)).toList
    rw [String.toList_append, Nat.toList_repr]
    exact .intro fun fuel rest _ hrest => number?_toDigits hrest (by simp)

/-! ### Lists and objects -/

theorem endsNumber_blank {bs : List Char} (hb : Blank bs) {c : Char} {rest : List Char}
    (hc : c = ',' ∨ c = ']' ∨ c = '\x7d') : EndsNumber (bs ++ c :: rest) := by
  have hstop : ∀ d, isSpace d = true ∨ d = ',' ∨ d = ']' ∨ d = '\x7d' →
      d.isDigit = false ∧ d ≠ '.' ∧ d ≠ 'e' ∧ d ≠ 'E' := by
    intro d hd
    simp only [isSpace, Bool.or_eq_true, decide_eq_true_eq] at hd
    obtain (((rfl | rfl) | rfl) | rfl) | rfl | rfl | rfl := hd <;> decide
  intro d hd
  cases bs with
  | nil =>
    obtain rfl : c = d := Option.some.inj hd
    exact hstop c (.inr hc)
  | cons b bs =>
    obtain rfl : b = d := Option.some.inj hd
    exact hstop b (.inl (hb b List.mem_cons_self))

theorem items?_last {fuel : Nat} {cs cs' rest : List Char} {v : Json}
    (hv : value? fuel cs = some (v, cs')) (hs : skipSpace cs' = ']' :: rest) :
    items? (fuel + 1) cs = some ([v], rest) := by
  simp [items?.eq_2, hv, hs]

theorem items?_more {fuel : Nat} {cs cs' cs'' rest : List Char} {v : Json} {vs : List Json}
    (hv : value? fuel cs = some (v, cs')) (hs : skipSpace cs' = ',' :: cs'')
    (hvs : items? fuel cs'' = some (vs, rest)) :
    items? (fuel + 1) cs = some (v :: vs, rest) := by
  simp [items?.eq_2, hv, hs, hvs]

theorem items?_intercalate {vs : List Json} {ts : List (List Char)} (h : List.Forall₂ Reads vs ts)
    (hne : vs ≠ []) {bs : List Char} (hb : Blank bs) {fuel : Nat} (rest : List Char)
    (hfuel : ([','].intercalate ts).length < fuel) :
    items? fuel ([','].intercalate ts ++ (bs ++ ']' :: rest)) = some (vs, rest) := by
  induction h generalizing fuel with
  | nil => exact absurd rfl hne
  | @cons v t vs ts hv hvs ih =>
    -- the step for this item is paid for by its comma, and for the last item by the bracket
    obtain ⟨fuel, rfl⟩ := Nat.exists_eq_succ_of_ne_zero (Nat.ne_zero_of_lt hfuel)
    cases hvs with
    | nil =>
      rw [List.intercalate_singleton] at hfuel ⊢
      have hread := hv fuel (bs ++ ']' :: rest) (by omega) (endsNumber_blank hb (by simp))
      exact items?_last hread (skipSpace_append hb _)
    | @cons w u vs ts hw hws =>
      rw [List.intercalate_cons_cons] at hfuel ⊢
      simp only [List.length_append, List.length_singleton] at hfuel
      have hread := hv fuel (',' :: ([','].intercalate (u :: ts) ++ (bs ++ ']' :: rest)))
        (by omega) (endsNumber_blank blank_nil (by simp))
      have hrest : items? fuel ([','].intercalate (u :: ts) ++ (bs ++ ']' :: rest)) =
          some (w :: vs, rest) := ih (by simp) (by omega)
      rw [List.append_assoc, List.append_assoc]
      exact items?_more hread rfl hrest

/-- A list between brackets, with commas between its items and blanks before its end. -/
theorem reads_arr {vs : List Json} {ts : List (List Char)} (h : List.Forall₂ Reads vs ts)
    {bs : List Char} (hb : Blank bs) :
    Reads (arr vs) ('[' :: ([','].intercalate ts ++ (bs ++ [']']))) := by
  refine .intro fun fuel rest hfuel _ => ?_
  rw [List.append_assoc, List.append_assoc, List.singleton_append]
  cases h with
  | nil =>
    show value? (fuel + 1) ('[' :: (bs ++ ']' :: rest)) = _
    rw [value?_bracket, skipSpace_append hb]
    rfl
  | cons hv hvs =>
    refine value?_list (items?_intercalate (.cons hv hvs) (by simp) hb rest ?_)
    simp only [List.length_append, List.length_singleton] at hfuel
    omega

/-- The text reads as the member of an object: a name in quotes, a colon and a value. -/
inductive ReadsMember (m : String × Json) : List Char → Prop
  | intro {bs t : List Char} (hb : Blank bs) (h : Reads m.2 t) :
    ReadsMember m (bs ++ (quoted m.1 ++ ':' :: t))

theorem skipSpace_quoted {bs : List Char} (hb : Blank bs) (k : String) (cs : List Char) :
    skipSpace (bs ++ (quoted k ++ cs)) = '"' :: (k.toList.flatMap escapeChar ++ '"' :: cs) := by
  rw [skipSpace_append hb, quoted, List.cons_append, List.append_assoc]
  rfl

theorem skipSpace_colon (cs : List Char) : skipSpace (':' :: cs) = ':' :: cs :=
  rfl

theorem members?_last {fuel : Nat} {bs cs cs' rest : List Char} (hb : Blank bs) {k : String}
    {v : Json} (hv : value? fuel cs = some (v, cs')) (hs : skipSpace cs' = '\x7d' :: rest) :
    members? (fuel + 1) (bs ++ (quoted k ++ ':' :: cs)) = some ([(some k, v)], rest) := by
  simp [members?.eq_2, skipSpace_quoted hb, text?_quoted, skipSpace_colon, hv, hs]

theorem members?_more {fuel : Nat} {bs cs cs' cs'' rest : List Char} (hb : Blank bs) {k : String}
    {v : Json} {ms : List (Option String × Json)} (hv : value? fuel cs = some (v, cs'))
    (hs : skipSpace cs' = ',' :: cs'') (hms : members? fuel cs'' = some (ms, rest)) :
    members? (fuel + 1) (bs ++ (quoted k ++ ':' :: cs)) = some ((some k, v) :: ms, rest) := by
  simp [members?.eq_2, skipSpace_quoted hb, text?_quoted, skipSpace_colon, hv, hs, hms]

theorem members?_intercalate {ms : List (String × Json)} {ts : List (List Char)}
    (h : List.Forall₂ ReadsMember ms ts) (hne : ms ≠ []) {bs : List Char} (hb : Blank bs)
    {fuel : Nat} (rest : List Char) (hfuel : ([','].intercalate ts).length < fuel) :
    members? fuel ([','].intercalate ts ++ (bs ++ '\x7d' :: rest)) =
      some (ms.map fun m => (some m.1, m.2), rest) := by
  induction h generalizing fuel with
  | nil => exact absurd rfl hne
  | @cons m t ms ts hm hms ih =>
    obtain ⟨fuel, rfl⟩ := Nat.exists_eq_succ_of_ne_zero (Nat.ne_zero_of_lt hfuel)
    cases hm with
    | @intro cs t hcs ht =>
      cases hms with
      | nil =>
        rw [List.intercalate_singleton] at hfuel ⊢
        simp only [List.length_append, List.length_cons] at hfuel
        have hread := ht fuel (bs ++ '\x7d' :: rest) (by omega) (endsNumber_blank hb (by simp))
        simp only [List.append_assoc, List.cons_append]
        exact members?_last hcs hread (skipSpace_append hb _)
      | @cons w u ms ts hw hws =>
        rw [List.intercalate_cons_cons] at hfuel ⊢
        simp only [List.length_append, List.length_cons, List.length_nil] at hfuel
        have hread := ht fuel (',' :: ([','].intercalate (u :: ts) ++ (bs ++ '\x7d' :: rest)))
          (by omega) (endsNumber_blank blank_nil (by simp))
        have hrest : members? fuel ([','].intercalate (u :: ts) ++ (bs ++ '\x7d' :: rest)) =
            some ((w :: ms).map fun m => (some m.1, m.2), rest) := ih (by simp) (by omega)
        simp only [List.append_assoc, List.cons_append, List.nil_append] at hread ⊢
        exact members?_more hcs hread rfl hrest

theorem objOf?_named (ms : List (String × Json)) :
    objOf? (ms.map fun m => (some m.1, m.2)) = obj ms := by
  have h : (ms.map fun m => (some m.1, m.2)).mapM (fun m => m.1.map (·, m.2)) = some ms := by
    induction ms with
    | nil => rfl
    | cons m ms ih => rw [List.map_cons, List.mapM_cons, ih]; rfl
  rw [objOf?, h]

/-- An object between braces, with commas between its members and blanks before its end. -/
theorem reads_obj {ms : List (String × Json)} {ts : List (List Char)}
    (h : List.Forall₂ ReadsMember ms ts) {bs : List Char} (hb : Blank bs) :
    Reads (obj ms) ('\x7b' :: ([','].intercalate ts ++ (bs ++ ['\x7d']))) := by
  refine .intro fun fuel rest hfuel _ => ?_
  rw [List.append_assoc, List.append_assoc, List.singleton_append]
  cases h with
  | nil =>
    show value? (fuel + 1) ('\x7b' :: (bs ++ '\x7d' :: rest)) = _
    rw [value?_brace, skipSpace_append hb]
    rfl
  | cons hv hvs =>
    rw [← objOf?_named]
    refine value?_object (members?_intercalate (.cons hv hvs) (by simp) hb rest ?_)
    simp only [List.length_append, List.length_singleton] at hfuel
    omega

end Wayfinder.Json
