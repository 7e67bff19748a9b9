import Wayfinder.Proofs.Link.Template
import Mathlib.Data.List.Pairwise

/-!
# Where the placeholders of a pattern stand

`placeholders_occurrences`: the names that a pattern mentions are those of all the places in it where a
name stands between braces, from left to right and with repeats. No two of these places overlap, so the
pass over the pattern cannot skip one by having read another.

That every place is found is `partsFrom_append_written`: what stands before a placeholder is read as if
nothing followed it. That nothing else is found is `flatMap_text_partsFrom`: the parts of a pattern, each
as it is written, are the pattern again. For the same reason a link in which every placeholder stands for
itself is the pattern.
-/

namespace Wayfinder.Link

/-! ## Parts as they are written -/

/-- A part as a pattern writes it. -/
def Part.text : Part → List Char
  | lit c => [c]
  | hole name => written name

theorem flatMap_text_partsFrom (cs : List Char) : (partsFrom 0 cs).flatMap Part.text = cs := by
  induction cs using reading_induction with
  | nil => rfl
  | hole name rest hname ih => rw [partsFrom_written hname, List.flatMap_cons, ih, Part.text]
  | char c rest hc ih => rw [partsFrom_cons hc, List.flatMap_cons, ih, Part.text, List.singleton_append]

theorem isName_of_hole {cs name : List Char} (h : .hole name ∈ partsFrom 0 cs) : IsName name := by
  induction cs using reading_induction with
  | nil => cases h
  | hole other rest hother ih =>
    rw [partsFrom_written hother] at h
    rcases List.mem_cons.mp h with he | hrest
    · rwa [Part.hole.inj he]
    · exact ih hrest
  | char c rest hc ih =>
    rw [partsFrom_cons hc] at h
    rcases List.mem_cons.mp h with he | hrest
    · cases he
    · exact ih hrest

/-! ## Occurrences -/

/-- A name and the number of characters before its opening brace. -/
structure Occurrence where
  start : Nat
  name : List Char

namespace Occurrence

/-- The number of characters up to and with the closing brace. -/
def stop (o : Occurrence) : Nat :=
  o.start + (written o.name).length

/-- The name stands between braces at that place of the text. -/
def In (o : Occurrence) (cs : List Char) : Prop :=
  IsName o.name ∧ ∃ before after, cs = before ++ written o.name ++ after ∧ before.length = o.start

/-- It ends where the other begins, or before. -/
def EndsBefore (o o' : Occurrence) : Prop :=
  o.stop ≤ o'.start

/-- One ends before the other begins. -/
def Disjoint (o o' : Occurrence) : Prop :=
  o.EndsBefore o' ∨ o'.EndsBefore o

theorem start_lt_stop (o : Occurrence) : o.start < o.stop := by
  have hlength : 0 < (written o.name).length := by simp [written]
  unfold stop
  omega

instance : Std.Irrefl EndsBefore := ⟨fun o => o.start_lt_stop.not_ge⟩

instance : Std.Antisymm EndsBefore := by
  constructor
  intro o o' h h'
  have hstart := o.start_lt_stop
  have hstart' := o'.start_lt_stop
  unfold EndsBefore at h h'
  omega

instance : Std.Symm Disjoint := ⟨fun _ _ => Or.symm⟩

end Occurrence

/-- All occurrences in a text, the next one nowhere before the end of the last. -/
structure Locates (cs : List Char) (found : List Occurrence) : Prop where
  mem_iff : ∀ o, o ∈ found ↔ o.In cs
  ordered : found.Pairwise Occurrence.EndsBefore

variable {cs : List Char} {found found' : List Occurrence}

theorem Locates.unique (h : Locates cs found) (h' : Locates cs found') : found' = found :=
  h'.ordered.eq_of_mem_iff h.ordered fun o => (h'.mem_iff o).trans (h.mem_iff o).symm

/-- No two occurrences overlap. -/
theorem Locates.disjoint (h : Locates cs found) {o o' : Occurrence} (ho : o.In cs) (ho' : o'.In cs)
    (hne : o ≠ o') : o.Disjoint o' := by
  have hdisjoint : found.Pairwise Occurrence.Disjoint := h.ordered.imp fun {a b} hab => Or.inl hab
  exact hdisjoint.forall ((h.mem_iff o).mpr ho) ((h.mem_iff o').mpr ho') hne

/-! ## The occurrences that are read -/

/-- The placeholders among parts, the first of which begins after `i` characters. -/
def occurrencesFrom : (i : Nat) → List Part → List Occurrence
  | _, [] => []
  | i, .lit _ :: ps => occurrencesFrom (i + 1) ps
  | i, .hole name :: ps => ⟨i, name⟩ :: occurrencesFrom (i + (written name).length) ps

theorem names_occurrencesFrom (i : Nat) (ps : List Part) :
    (occurrencesFrom i ps).map (fun o => String.ofList o.name) = ps.filterMap Part.name? := by
  induction ps generalizing i with
  | nil => rfl
  | cons p ps ih =>
    cases p with
    | lit c => exact ih (i + 1)
    | hole name =>
      rw [occurrencesFrom, List.map_cons, ih]
      rfl

theorem occurrencesFrom_append (i : Nat) (ps qs : List Part) :
    occurrencesFrom i (ps ++ qs) =
      occurrencesFrom i ps ++ occurrencesFrom (i + (ps.flatMap Part.text).length) qs := by
  induction ps generalizing i with
  | nil => rfl
  | cons p ps ih =>
    rw [List.flatMap_cons, List.length_append, ← Nat.add_assoc]
    cases p with
    | lit c => exact ih (i + 1)
    | hole name => rw [List.cons_append, occurrencesFrom, occurrencesFrom, ih, List.cons_append, Part.text]

/-- An occurrence begins where the parts before it end. -/
theorem exists_of_mem_occurrencesFrom {i : Nat} {ps : List Part} {o : Occurrence}
    (h : o ∈ occurrencesFrom i ps) :
    ∃ before after, ps = before ++ .hole o.name :: after ∧
      o.start = i + (before.flatMap Part.text).length := by
  induction ps generalizing i with
  | nil => cases h
  | cons p ps ih =>
    have hlater : o ∈ occurrencesFrom (i + p.text.length) ps →
        ∃ before after, p :: ps = before ++ .hole o.name :: after ∧
          o.start = i + (before.flatMap Part.text).length := by
      intro hmem
      obtain ⟨before, after, rfl, hstart⟩ := ih hmem
      refine ⟨p :: before, after, rfl, ?_⟩
      rw [hstart, List.flatMap_cons, List.length_append, Nat.add_assoc]
    cases p with
    | lit c => exact hlater h
    | hole name =>
      rcases List.mem_cons.mp h with rfl | hmem
      · exact ⟨[], ps, rfl, rfl⟩
      · exact hlater hmem

theorem pairwise_occurrencesFrom (i : Nat) (ps : List Part) :
    (occurrencesFrom i ps).Pairwise Occurrence.EndsBefore := by
  induction ps generalizing i with
  | nil => exact List.Pairwise.nil
  | cons p ps ih =>
    cases p with
    | lit c => exact ih (i + 1)
    | hole name =>
      refine List.pairwise_cons.mpr ⟨fun o ho => ?_, ih _⟩
      obtain ⟨before, after, -, hstart⟩ := exists_of_mem_occurrencesFrom ho
      show i + (written name).length ≤ o.start
      omega

/-- The placeholders that are read are those that occur. -/
theorem locates_occurrencesFrom (cs : List Char) : Locates cs (occurrencesFrom 0 (partsFrom 0 cs)) where
  ordered := pairwise_occurrencesFrom 0 _
  mem_iff o := by
    constructor
    · intro h
      obtain ⟨before, after, hparts, hstart⟩ := exists_of_mem_occurrencesFrom h
      have hname : .hole o.name ∈ partsFrom 0 cs := by
        rw [hparts]
        exact List.mem_append_right _ List.mem_cons_self
      refine ⟨isName_of_hole hname, before.flatMap Part.text, after.flatMap Part.text, ?_, by omega⟩
      rw [← flatMap_text_partsFrom cs, hparts, List.flatMap_append, List.flatMap_cons, Part.text,
        List.append_assoc]
    · rintro ⟨hname, before, after, rfl, hstart⟩
      rw [partsFrom_append_written hname, occurrencesFrom_append, flatMap_text_partsFrom, Nat.zero_add,
        hstart, occurrencesFrom]
      exact List.mem_append_right _ List.mem_cons_self

/-! ## Placeholders that stand for themselves -/

/-- Every placeholder of the pattern has its own text as its value. -/
def Echoes (scope : Scope) (pattern : String) : Prop :=
  ∀ name ∈ placeholders pattern, scope.get? name = some ("\x7b" ++ name ++ "\x7d")

/-- The scope with these values. -/
def echo (pattern : String) : Scope :=
  .ofList ((placeholders pattern).map fun name => (name, "\x7b" ++ name ++ "\x7d"))

theorem echoes_echo (pattern : String) : Echoes (echo pattern) pattern := by
  intro name hname
  cases hvalue : (echo pattern).get? name with
  | none =>
    rw [echo, OrderedMap.get?_ofList_eq_none, List.map_map] at hvalue
    exact absurd (List.mem_map.mpr ⟨name, hname, rfl⟩) hvalue
  | some value =>
    -- a name that is mentioned twice is given the same text both times
    obtain ⟨other, -, he⟩ := List.mem_map.mp (OrderedMap.mem_of_get?_ofList hvalue)
    obtain ⟨rfl, rfl⟩ := Prod.mk.inj he
    rfl

theorem fill_of_echoes {scope : Scope} {pattern : String} (h : Echoes scope pattern) {p : Part}
    (hp : p ∈ parts pattern) : p.fill scope = p.text := by
  cases p with
  | lit c => rfl
  | hole name =>
    have hname : String.ofList name ∈ placeholders pattern :=
      Template.mem_placeholders_of_hole (t := Template.ofPattern pattern) hp
    have htext : ("\x7b" ++ String.ofList name ++ "\x7d").toList = written name := by
      simp [written]
    rw [Part.fill, h _ hname, Option.map_some, Option.getD_some, htext, Part.text]

theorem expand_of_echoes {scope : Scope} {pattern : String} (h : Echoes scope pattern) :
    (Template.ofPattern pattern).expand scope = some pattern := by
  have hsatisfied : (Template.ofPattern pattern).satisfied scope = true := by
    rw [Template.satisfied_iff]
    intro name hname
    rw [OrderedMap.contains, h name hname]
    rfl
  have hlink : (parts pattern).flatMap (Part.fill scope) = pattern.toList := by
    rw [← flatMap_text_partsFrom pattern.toList]
    exact List.flatMap_congr fun p hp => fill_of_echoes h hp
  rw [Template.expand, if_pos hsatisfied, Template.ofPattern, hlink, String.ofList_toList]

/-- **Placeholders are read exactly.** -/
theorem placeholders_occurrences (pattern : String) :
    (∃! found, Locates pattern.toList found ∧
        placeholders pattern = found.map fun o => String.ofList o.name) ∧
      (∀ o o' : Occurrence, o.In pattern.toList → o'.In pattern.toList → o ≠ o' → o.Disjoint o') ∧
      (Template.ofPattern pattern).undeclared = [] ∧
      (∃ scope, Echoes scope pattern) ∧
      ∀ scope, Echoes scope pattern → (Template.ofPattern pattern).expand scope = some pattern := by
  have hlocates := locates_occurrencesFrom pattern.toList
  refine ⟨⟨_, ⟨hlocates, (names_occurrencesFrom 0 _).symm⟩, fun found h => hlocates.unique h.1⟩,
    fun o o' => hlocates.disjoint, ?_, ⟨_, echoes_echo pattern⟩, fun scope => expand_of_echoes⟩
  exact Template.undeclared_eq_nil_iff.mpr fun name hname => hname

/-- Braces that open no placeholder, or close none, hide none. -/
example : placeholders "\x7b\x7ba\x7d\x7d\x7ba\x7bb\x7d\x7b1\x7d\x7ba\x7d" = ["a", "b", "a"] := by
  decide

end Wayfinder.Link
