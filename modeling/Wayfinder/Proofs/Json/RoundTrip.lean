import Wayfinder.Proofs.Json.Reads

/-!
# Both layouts read back

A value without a foreign part (`Plain`) reads back from its line and from its lines
(`ofText?_compact`, `ofText?_pretty`). The two layouts differ only in the blanks that stand before
the parts of a list or an object and before its closing bracket, so each is one case of `reads_arr`
and `reads_obj`.
-/

namespace Wayfinder.Json

/-- A value without a foreign part. -/
inductive Plain : Json → Prop
  | null : Plain null
  | bool (b : Bool) : Plain (bool b)
  | int (n : Int) : Plain (int n)
  | str (s : String) : Plain (str s)
  | arr {vs : List Json} (h : ∀ v ∈ vs, Plain v) : Plain (arr vs)
  | obj {ms : List (String × Json)} (h : ∀ m ∈ ms, Plain m.2) : Plain (obj ms)

/-! ## One line -/

theorem compactItems_eq_map (vs : List Json) : compactItems vs = vs.map compact := by
  induction vs with
  | nil => rfl
  | cons v vs ih => rw [compactItems, ih, List.map_cons]

theorem compactMembers_eq_map (ms : List (String × Json)) :
    compactMembers ms = ms.map fun m => quote m.1 ++ ":" ++ compact m.2 := by
  induction ms with
  | nil => rfl
  | cons m ms ih => rw [compactMembers, ih, List.map_cons]

theorem reads_compact {v : Json} (h : v.Plain) : Reads v (compact v).toList := by
  induction h with
  | null => exact reads_null
  | bool b => exact reads_bool b
  | int n => exact reads_int n
  | str s => rw [compact, toList_quote]; exact reads_str s
  | @arr vs h ih =>
    have hitems : List.Forall₂ Reads vs (vs.map fun v => (compact v).toList) := by
      rw [List.forall₂_map_right_iff, List.forall₂_same]
      exact ih
    have hread := reads_arr hitems blank_nil
    rw [compact, compactItems_eq_map]
    simpa [String.toList_append, String.toList_intercalate, Function.comp_def] using hread
  | @obj ms h ih =>
    have hmembers : List.Forall₂ ReadsMember ms
        (ms.map fun m => quoted m.1 ++ ':' :: (compact m.2).toList) := by
      rw [List.forall₂_map_right_iff, List.forall₂_same]
      exact fun m hm => .intro blank_nil (ih m hm)
    have hread := reads_obj hmembers blank_nil
    rw [compact, compactMembers_eq_map]
    simpa [String.toList_append, String.toList_intercalate, toList_quote, Function.comp_def]
      using hread

/-! ## Several lines -/

theorem prettyItems_eq_map (level : Nat) (vs : List Json) :
    prettyItems level vs = vs.map (prettyAt level) := by
  induction vs with
  | nil => rfl
  | cons v vs ih => rw [prettyItems, ih, List.map_cons]

theorem prettyMembers_eq_map (level : Nat) (ms : List (String × Json)) :
    prettyMembers level ms = ms.map fun m => quote m.1 ++ ": " ++ prettyAt level m.2 := by
  induction ms with
  | nil => rfl
  | cons m ms ih => rw [prettyMembers, ih, List.map_cons]

theorem blank_newline (level : Nat) : Blank (newline level).toList := by
  have htext : (newline level).toList = '\n' :: List.replicate (2 * level) ' ' := by
    simp [newline]
  intro c hc
  rw [htext, List.mem_cons] at hc
  rcases hc with rfl | hc
  · rfl
  · rw [List.eq_of_mem_replicate hc]
    rfl

theorem toList_bracket (level : Nat) (opening closing : String) (parts : List String) :
    ∃ bs, Blank bs ∧ (bracket level opening closing parts).toList =
      opening.toList ++ ([','].intercalate (parts.map fun p =>
        (newline (level + 1)).toList ++ p.toList) ++ (bs ++ closing.toList)) := by
  rw [bracket]
  split_ifs with h
  · obtain rfl := List.isEmpty_iff.mp h
    exact ⟨[], blank_nil, by simp⟩
  · refine ⟨(newline level).toList, blank_newline level, ?_⟩
    simp [String.toList_append, String.toList_intercalate, Function.comp_def]

theorem reads_prettyAt {v : Json} (h : v.Plain) (level : Nat) :
    Reads v (prettyAt level v).toList := by
  induction h generalizing level with
  | null | bool | int | str => exact reads_compact (by constructor)
  | @arr vs h ih =>
    have hitems : List.Forall₂ Reads vs ((prettyItems (level + 1) vs).map fun p =>
        (newline (level + 1)).toList ++ p.toList) := by
      rw [prettyItems_eq_map, List.map_map, List.forall₂_map_right_iff, List.forall₂_same]
      exact fun v hv => (ih v hv (level + 1)).append (blank_newline _)
    obtain ⟨bs, hb, htext⟩ := toList_bracket level "[" "]" (prettyItems (level + 1) vs)
    rw [prettyAt, htext]
    exact reads_arr hitems hb
  | @obj ms h ih =>
    have hmembers : List.Forall₂ ReadsMember ms ((prettyMembers (level + 1) ms).map fun p =>
        (newline (level + 1)).toList ++ p.toList) := by
      rw [prettyMembers_eq_map, List.map_map, List.forall₂_map_right_iff, List.forall₂_same]
      intro m hm
      have hspace : Blank [' '] := by simp [Blank, isSpace]
      have hvalue : Reads m.2 (' ' :: (prettyAt (level + 1) m.2).toList) :=
        (ih m hm (level + 1)).append hspace
      have hmember := ReadsMember.intro (m := m) (blank_newline (level + 1)) hvalue
      simpa [toList_quote] using hmember
    obtain ⟨bs, hb, htext⟩ := toList_bracket level "\x7b" "\x7d" (prettyMembers (level + 1) ms)
    rw [prettyAt, htext]
    exact reads_obj hmembers hb

/-! ## Texts -/

theorem ofText?_of_reads {v : Json} {s : String} (h : Reads v s.toList) : ofText? s = some v := by
  have hfuel : s.toList.length ≤ s.toList.length + 1 := Nat.le_succ _
  have hread := h _ [] hfuel (by intro c hc; cases hc)
  rw [List.append_nil] at hread
  simp only [ofText?, hread, Option.bind_eq_bind, Option.bind_some]
  rfl

/-- A value reads back from its line. -/
theorem ofText?_compact {v : Json} (h : v.Plain) : ofText? (compact v) = some v :=
  ofText?_of_reads (reads_compact h)

/-- A value reads back from its lines. -/
theorem ofText?_pretty {v : Json} (h : v.Plain) : ofText? (pretty v) = some v :=
  ofText?_of_reads (reads_prettyAt h 0)

end Wayfinder.Json
