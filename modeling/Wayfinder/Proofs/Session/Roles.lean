import Wayfinder.Config.Basic
import Wayfinder.Proofs.OrderedMap
import Wayfinder.Proofs.Since
import Wayfinder.Proofs.Text.Blank
import Wayfinder.Session.Basic
import Mathlib.Data.List.Induction

/-!
# The preset of a role is the one assigned last

`RoleTable.last_assignment`: however a table was edited, a role starts in the preset of the last
assignment to a role of the same normal form (`exists_normalRole`), and in the baseline if there is
none. So of the settings that name one role in several ways, the greatest of these names counts, in
whatever order they were written.

All that a table knows after assignments is, for each normal form, the last of them that has it
(`Records`). One assignment keeps this (`Records.insert`), so every edit does (`Records.after`), and
every sequence of edits (`Records.run`).
-/

namespace Wayfinder

/-! ## Normal forms -/

theorem isBlank_toLower (c : Char) : Text.isBlank c.toLower = Text.isBlank c := by
  rw [Text.isBlank, Text.isBlank, Term.toNat_toLower]
  split_ifs with h
  · -- neither a capital nor a small letter is blank
    have hnot : ∀ n, 0x41 ≤ n → n ≤ 0x7A → Text.blankRanges.has n = false := by
      intro n hlo hhi
      simp only [Text.blankRanges, Text.Ranges.has]
      grind
    have hlo : 0x41 ≤ c.toNat := h.1
    have hhi : c.toNat ≤ 0x5A := h.2
    rw [hnot _ (by omega) (by omega), hnot _ hlo (by omega)]
  · rfl

theorem toLower_toLower (c : Char) : c.toLower.toLower = c.toLower := by
  have hsmall : ¬ ('A' ≤ c.toLower ∧ c.toLower ≤ 'Z') := by
    rintro ⟨hlo, hhi⟩
    replace hlo : 0x41 ≤ c.toLower.toNat := hlo
    replace hhi : c.toLower.toNat ≤ 0x5A := hhi
    rw [Term.toNat_toLower] at hlo hhi
    split_ifs at hlo hhi with h
    · have hcapital : 0x41 ≤ c.toNat := h.1
      omega
    · exact h ⟨hlo, hhi⟩
  rw [← Char.toNat_inj, Term.toNat_toLower, if_neg hsmall]

theorem trim_foldCase (s : String) : Text.trim (Term.foldCase s) = Term.foldCase (Text.trim s) :=
  Text.trim_map isBlank_toLower s

theorem foldCase_foldCase (s : String) : Term.foldCase (Term.foldCase s) = Term.foldCase s := by
  rw [Term.foldCase, Term.foldCase, String.toList_ofList, List.map_map]
  exact congrArg String.ofList (List.map_congr_left fun c _ => toLower_toLower c)

/-- A normal form is its own normal form. -/
theorem normalRole_normalRole (role : String) : normalRole (normalRole role) = normalRole role := by
  rw [normalRole, normalRole, trim_foldCase, Text.trim_trim, foldCase_foldCase]

/-! ## Edits of a table -/

/-- An edit of a table. -/
inductive RoleEdit
  | insert (role : String) (p : Preset)
  | merge (es : List (String × Preset))
  | withBaseline (p : Preset)

namespace RoleEdit

/-- The roles that an edit assigns presets to, in order. -/
def assigned : RoleEdit → List (String × Preset)
  | insert role p => [(role, p)]
  | merge es => es
  | withBaseline _ => []

/-- The baseline that an edit sets. -/
def baseline? : RoleEdit → Option Preset
  | insert _ _ => none
  | merge _ => none
  | withBaseline p => some p

/-- The baseline that was set last; tables start with that of all sessions. -/
def lastBaseline (edits : List RoleEdit) : Preset :=
  ((edits.filterMap baseline?).getLast?).getD Preset.baseline

end RoleEdit

namespace RoleTable

/-- The table after an edit. -/
def after (t : RoleTable) : RoleEdit → RoleTable
  | .insert role p => t.insert role p
  | .merge es => t.merge es
  | .withBaseline p => t.withBaseline p

/-- The table after edits. -/
def run (t : RoleTable) (edits : List RoleEdit) : RoleTable :=
  edits.foldl after t

/-! ## The last assignment -/

/-- The last assignment to a role with the normal form `n` is of the preset `p`. -/
def LastAssigned (as : List (String × Preset)) (n : String) (p : Preset) : Prop :=
  Since (fun e => normalRole e.1 = n ∧ e.2 = p) (fun e => normalRole e.1 ≠ n) as

variable {as bs : List (String × Preset)} {n role : String} {p : Preset}

theorem LastAssigned.exists_mem (h : LastAssigned as n p) :
    ∃ role, (role, p) ∈ as ∧ normalRole role = n := by
  obtain ⟨e, he, hrole, rfl⟩ := Since.exists_mem h
  exact ⟨e.1, he, hrole⟩

theorem lastAssigned_append :
    LastAssigned (as ++ bs) n p ↔
      LastAssigned bs n p ∨ LastAssigned as n p ∧ ∀ e ∈ bs, normalRole e.1 ≠ n :=
  since_append

theorem lastAssigned_concat {e : String × Preset} :
    LastAssigned (as ++ [e]) n p ↔
      (normalRole e.1 = n ∧ e.2 = p) ∨ LastAssigned as n p ∧ normalRole e.1 ≠ n :=
  since_concat

theorem exists_lastAssigned_iff : (∃ p, LastAssigned as n p) ↔ ∃ e ∈ as, normalRole e.1 = n := by
  constructor
  · rintro ⟨p, h⟩
    obtain ⟨role, hmem, hrole⟩ := h.exists_mem
    exact ⟨(role, p), hmem, hrole⟩
  · induction as using List.reverseRecOn with
    | nil => simp
    | append_singleton as e ih =>
      rintro ⟨f, hf, hn⟩
      by_cases he : normalRole e.1 = n
      · exact ⟨e.2, lastAssigned_concat.mpr (Or.inl ⟨he, rfl⟩)⟩
      · rcases List.mem_append.mp hf with hf | hf
        · obtain ⟨p, hp⟩ := ih ⟨f, hf, hn⟩
          exact ⟨p, lastAssigned_concat.mpr (Or.inr ⟨hp, he⟩)⟩
        · rw [List.mem_singleton.mp hf] at hn
          exact absurd hn he

/-! ## What a table knows -/

/-- A table knows for each normal form the preset that was assigned to it last. -/
def Records (t : RoleTable) (as : List (String × Preset)) : Prop :=
  ∀ n p, t.presets.get? n = some p ↔ LastAssigned as n p

variable {t : RoleTable}

theorem records_empty : Records empty [] := by
  intro n p
  exact iff_of_false (by rintro ⟨⟩) not_since_nil

theorem Records.insert (h : Records t as) (role : String) (p : Preset) :
    Records (t.insert role p) (as ++ [(role, p)]) := by
  intro n q
  show (t.presets.insert (normalRole role) p).get? n = some q ↔ _
  rw [OrderedMap.get?_insert, lastAssigned_concat, ← h n q]
  by_cases hn : normalRole role = n <;> simp [hn]

theorem Records.merge (h : Records t as) (es : List (String × Preset)) :
    Records (t.merge es) (as ++ es) := by
  induction es generalizing t as with
  | nil => rwa [List.append_nil]
  | cons e es ih =>
    rw [List.append_cons]
    exact ih (h.insert e.1 e.2)

theorem Records.after (h : Records t as) (edit : RoleEdit) :
    Records (t.after edit) (as ++ edit.assigned) := by
  cases edit with
  | insert role p => exact h.insert role p
  | merge es => exact h.merge es
  | withBaseline p =>
    rw [RoleEdit.assigned, List.append_nil]
    exact h

theorem Records.run (h : Records t as) (edits : List RoleEdit) :
    Records (t.run edits) (as ++ edits.flatMap RoleEdit.assigned) := by
  induction edits generalizing t as with
  | nil => rwa [List.flatMap_nil, List.append_nil]
  | cons edit edits ih =>
    rw [List.flatMap_cons, ← List.append_assoc]
    exact ih (h.after edit)

theorem records_standard : Records standard builtIn :=
  records_empty.merge builtIn

theorem baseline_merge (t : RoleTable) (es : List (String × Preset)) :
    (t.merge es).baseline = t.baseline := by
  induction es generalizing t with
  | nil => rfl
  | cons e es ih => exact ih (t.insert e.1 e.2)

/-- The baseline is the one set last. -/
theorem baseline_run (t : RoleTable) (edits : List RoleEdit) :
    (t.run edits).baseline = ((edits.filterMap RoleEdit.baseline?).getLast?).getD t.baseline := by
  induction edits generalizing t with
  | nil => rfl
  | cons edit edits ih =>
    have hrest : (t.run (edit :: edits)).baseline = _ := ih (t.after edit)
    cases edit with
    | insert role p => exact hrest
    | merge es => rwa [after, baseline_merge] at hrest
    | withBaseline p =>
      have hcons : (RoleEdit.withBaseline p :: edits).filterMap RoleEdit.baseline? =
          p :: edits.filterMap RoleEdit.baseline? := rfl
      rw [hrest, hcons, List.getLast?_cons]
      rfl

/-! ## What a table answers -/

/-- The answers of a table after assignments, where `baseline` was set last. -/
structure Answers (t : RoleTable) (as : List (String × Preset)) (baseline : Preset) : Prop where
  presetFor_eq_iff : ∀ role p, t.presetFor role = p ↔
    LastAssigned as (normalRole role) p ∨
      (∀ e ∈ as, normalRole e.1 ≠ normalRole role) ∧ p = baseline
  ascending : (t.toList.map Prod.fst).Pairwise (· < ·)
  mem_listed_iff : ∀ n, n ∈ t.toList.map Prod.fst ↔ ∃ e ∈ as, normalRole e.1 = n
  of_listed : ∀ e ∈ t.toList, normalRole e.1 = e.1 ∧ t.presetFor e.1 = e.2

theorem Records.mem_keys_iff (h : Records t as) :
    n ∈ t.presets.keys ↔ ∃ e ∈ as, normalRole e.1 = n := by
  rw [OrderedMap.mem_keys_iff, ← exists_lastAssigned_iff]
  exact exists_congr fun p => h n p

theorem Records.presetFor_eq_iff (h : Records t as) :
    t.presetFor role = p ↔
      LastAssigned as (normalRole role) p ∨
        (∀ e ∈ as, normalRole e.1 ≠ normalRole role) ∧ p = t.baseline := by
  rw [← h]
  cases hget : t.presets.get? (normalRole role) with
  | some q =>
    obtain ⟨name, hmem, hname⟩ := ((h _ q).mp hget).exists_mem
    rw [presetFor, hget, Option.getD_some, Option.some.injEq,
      or_iff_left fun hnone => hnone.1 (name, q) hmem hname]
  | none =>
    have hnone : ∀ e ∈ as, normalRole e.1 ≠ normalRole role := by
      intro e he hn
      have hkey := h.mem_keys_iff.mpr ⟨e, he, hn⟩
      exact OrderedMap.get?_eq_none.mp hget hkey
    rw [presetFor, hget, Option.getD_none, or_iff_right (by rintro ⟨⟩), and_iff_right hnone]
    exact eq_comm

theorem Records.answers (h : Records t as) : Answers t as t.baseline where
  presetFor_eq_iff _ _ := h.presetFor_eq_iff
  ascending := List.pairwise_map.mpr t.presets.pairwise_sorted
  mem_listed_iff n := by rw [toList, OrderedMap.mem_keys_sorted, h.mem_keys_iff]
  of_listed e he := by
    have hget : t.presets.get? e.1 = some e.2 :=
      OrderedMap.get?_eq_some.mpr (t.presets.sorted_perm.mem_iff.mp he)
    obtain ⟨role, -, hrole⟩ := ((h e.1 e.2).mp hget).exists_mem
    have hnormal : normalRole e.1 = e.1 := by rw [← hrole, normalRole_normalRole]
    rw [presetFor, hnormal, hget]
    exact ⟨rfl, rfl⟩

/-! ## Settings -/

/-- Of several names with one normal form, the greatest is assigned last. -/
theorem lastAssigned_sorted (m : OrderedMap Preset) :
    LastAssigned m.sorted n p ↔
      ∃ name, m.get? name = some p ∧ normalRole name = n ∧
        ∀ other ∈ m.keys, normalRole other = n → other ≤ name := by
  have hascends := m.pairwise_sorted
  constructor
  · rintro ⟨before, ⟨name, p⟩, later, hsorted, ⟨hname, rfl⟩, hlater⟩
    rw [hsorted, List.pairwise_append, List.pairwise_cons] at hascends
    obtain ⟨-, -, hbefore⟩ := hascends
    refine ⟨name, ?_, hname, fun other hother hn => ?_⟩
    · rw [OrderedMap.get?_eq_some, ← m.sorted_perm.mem_iff, hsorted]
      exact List.mem_append_right _ List.mem_cons_self
    · obtain ⟨e, he, rfl⟩ := List.mem_map.mp (OrderedMap.mem_keys_sorted.mpr hother)
      rw [hsorted, List.mem_append, List.mem_cons] at he
      rcases he with he | rfl | he
      · exact le_of_lt (hbefore e he _ List.mem_cons_self)
      · exact le_refl _
      · exact absurd hn (hlater e he)
  · rintro ⟨name, hget, hname, hgreatest⟩
    have hmem := m.sorted_perm.mem_iff.mpr (OrderedMap.get?_eq_some.mp hget)
    obtain ⟨before, later, hsorted⟩ := List.append_of_mem hmem
    refine ⟨before, (name, p), later, hsorted, ⟨hname, rfl⟩, fun e he hn => ?_⟩
    rw [hsorted, List.pairwise_append, List.pairwise_cons] at hascends
    have hlt : name < e.1 := hascends.2.1.1 e he
    refine absurd (hgreatest e.1 ?_ hn) (not_le_of_gt hlt)
    rw [← OrderedMap.mem_keys_sorted, hsorted]
    exact List.mem_map_of_mem (List.mem_append_right _ (List.mem_cons_of_mem _ he))

/-- Assignments in ascending order come after all others. -/
theorem Records.presetFor_sorted_eq_iff {m : OrderedMap Preset} (h : Records t (as ++ m.sorted)) :
    t.presetFor role = p ↔
      (∃ name, m.get? name = some p ∧ normalRole name = normalRole role ∧
        ∀ other ∈ m.keys, normalRole other = normalRole role → other ≤ name) ∨
      (∀ name ∈ m.keys, normalRole name ≠ normalRole role) ∧
        (LastAssigned as (normalRole role) p ∨
          (∀ e ∈ as, normalRole e.1 ≠ normalRole role) ∧ p = t.baseline) := by
  have hkeys : (∀ e ∈ m.sorted, normalRole e.1 ≠ normalRole role) ↔
      ∀ name ∈ m.keys, normalRole name ≠ normalRole role := by
    simp only [← OrderedMap.mem_keys_sorted, List.forall_mem_map]
  rw [h.presetFor_eq_iff, lastAssigned_append, lastAssigned_sorted, List.forall_mem_append, hkeys,
    or_assoc, and_comm, and_comm (b := ∀ name ∈ m.keys, _), and_assoc, ← and_or_left]

/-- Of roles in their normal forms, none of them twice, each is the last of its form. -/
theorem lastAssigned_iff_mem (hnormal : ∀ e ∈ as, normalRole e.1 = e.1)
    (hnodup : (as.map Prod.fst).Nodup) : LastAssigned as n p ↔ (n, p) ∈ as := by
  constructor
  · intro h
    obtain ⟨role, hmem, hrole⟩ := h.exists_mem
    have hself : normalRole role = role := hnormal (role, p) hmem
    rwa [← hrole, hself]
  · intro hmem
    obtain ⟨before, later, rfl⟩ := List.append_of_mem hmem
    refine ⟨before, (n, p), later, rfl, ⟨hnormal (n, p) hmem, rfl⟩, fun e he hn => ?_⟩
    rw [hnormal e (List.mem_append_right _ (List.mem_cons_of_mem _ he))] at hn
    rw [List.map_append, List.map_cons, List.nodup_append, List.nodup_cons] at hnodup
    exact hnodup.2.1.1 (List.mem_map.mpr ⟨e, he, hn⟩)

theorem normalRole_builtIn : ∀ e ∈ builtIn, normalRole e.1 = e.1 := by
  decide

theorem lastAssigned_builtIn : LastAssigned builtIn n p ↔ (n, p) ∈ builtIn :=
  lastAssigned_iff_mem normalRole_builtIn (by decide)

theorem records_roleTable (c : Config) : Records c.roleTable (builtIn ++ c.rolePresets.sorted) :=
  (records_standard.after (.withBaseline c.baseline)).merge _

theorem baseline_roleTable (c : Config) : c.roleTable.baseline = c.baseline :=
  baseline_merge _ _

/-- **The last assignment counts**: however a table was edited, a role has the preset that was
assigned last to a role of its normal form, else the baseline. So a session opens in the preset that
the settings give to the greatest name of its role, else in the built-in one, else in the baseline
of the settings, in whatever order they name roles. -/
theorem last_assignment (edits : List RoleEdit) :
    Answers (empty.run edits) (edits.flatMap RoleEdit.assigned) (RoleEdit.lastBaseline edits) ∧
      Answers (standard.run edits) (builtIn ++ edits.flatMap RoleEdit.assigned)
        (RoleEdit.lastBaseline edits) ∧
      ∀ (c : Config) (registry : Registry) (id role : String) (granted : TermSet Capability),
        (∀ p, (Session.start (c.engine registry) id role granted).lens.current = p ↔
          (∃ name, c.rolePresets.get? name = some p ∧ normalRole name = normalRole role ∧
            ∀ other ∈ c.rolePresets.keys, normalRole other = normalRole role → other ≤ name) ∨
          (∀ name ∈ c.rolePresets.keys, normalRole name ≠ normalRole role) ∧
            ((normalRole role, p) ∈ builtIn ∨
              (∀ e ∈ builtIn, e.1 ≠ normalRole role) ∧ p = c.baseline)) ∧
        ∀ m : OrderedMap Preset, m.entries.Perm c.rolePresets.entries →
          Config.roleTable { c with rolePresets := m } = c.roleTable := by
  have hempty := (records_empty.run edits).answers
  have hstandard := (records_standard.run edits).answers
  rw [baseline_run] at hempty hstandard
  refine ⟨hempty, hstandard, fun c registry id role granted => ⟨fun p => ?_, fun m hm => ?_⟩⟩
  · show c.roleTable.presetFor role = p ↔ _
    have hbuiltIn : (∀ e ∈ builtIn, normalRole e.1 ≠ normalRole role) ↔
        ∀ e ∈ builtIn, e.1 ≠ normalRole role :=
      forall₂_congr fun e he => by rw [normalRole_builtIn e he]
    rw [(records_roleTable c).presetFor_sorted_eq_iff, lastAssigned_builtIn, hbuiltIn,
      baseline_roleTable]
  · rw [Config.roleTable, Config.roleTable, OrderedMap.sorted_congr hm]

/-- Two names of one role, assigned one after the other; the other built-in roles stay. -/
example :
    let t := standard.run [.insert " QA" .pmWork, .merge [("qa", .auditEvidence)]]
    t.presetFor "Qa " = .auditEvidence ∧ t.presetFor "PMO" = .pmoControl := by
  decide

end RoleTable

end Wayfinder
