import Wayfinder.Preset.Switch
import Mathlib.Data.List.Basic

/-!
# Runs of requests for presets

A run starts in a preset and makes one request after another. It accepts the requests up to and
including the first for `AUDIT_EVIDENCE` (`accepted`), and so goes through the presets of `path`.
`answers_eq_forecast`, `getLast?_path` and `readOnly_run` give its answers and its last lens in
closed form; `run_take` says that nothing changes after the last accepted request.

Each is an induction on the requests for a lens with either flag. A lens in the terminal preset
answers every request alike and stays as it is; any other accepts the first request, and the run
goes on from the requested preset (`accepted_cons`).
-/

namespace Wayfinder

namespace Preset

/-! ## The presets of a run -/

/-- The requests that a run from `p` accepts. -/
def accepted (p : Preset) (requests : List Preset) : List Preset :=
  if p = .auditEvidence then [] else requests.take (requests.idxOf .auditEvidence + 1)

/-- The presets that a run from `p` goes through. -/
def path (p : Preset) (requests : List Preset) : List Preset :=
  p :: p.accepted requests

/-- The last step of a path goes up the hierarchy (`rank_eq_index`). -/
def EndsUpward (path : List Preset) : Prop :=
  ∃ before previous last, path = before ++ [previous, last] ∧ last.rank < previous.rank

/-- The answers to a run from `p`: each accepted request steps along the path, and every later one
is refused by the terminal preset. -/
def forecast (p : Preset) (requests : List Preset) : List (Except LockedPreset Switch) :=
  List.zipWith (fun previous next => .ok ⟨previous, next, next.rank < previous.rank⟩)
      (p.path requests) (p.accepted requests) ++
    (requests.drop (p.accepted requests).length).map fun requested =>
      .error ⟨.auditEvidence, requested⟩

variable {p q : Preset} {requests : List Preset}

theorem accepted_nil : p.accepted [] = [] := by
  unfold accepted
  split <;> rfl

theorem accepted_terminal : accepted .auditEvidence requests = [] :=
  if_pos rfl

theorem accepted_cons (h : p ≠ .auditEvidence) :
    p.accepted (q :: requests) = q :: q.accepted requests := by
  rw [accepted, if_neg h]
  by_cases hq : q = .auditEvidence
  · subst hq
    rw [accepted_terminal, List.idxOf_cons_self, List.take_succ_cons, List.take_zero]
  · rw [accepted, if_neg hq, List.idxOf_cons_ne _ hq, List.take_succ_cons]

theorem not_endsUpward_singleton : ¬ EndsUpward [p] := by
  rintro ⟨before, previous, last, h, -⟩
  have hlength := congrArg List.length h
  simp at hlength

theorem endsUpward_cons_cons {ps : List Preset} :
    EndsUpward (p :: q :: ps) ↔ (ps = [] ∧ q.rank < p.rank) ∨ EndsUpward (q :: ps) := by
  constructor
  · rintro ⟨before, previous, last, h, hlt⟩
    cases before with
    | nil =>
      simp only [List.nil_append, List.cons.injEq] at h
      obtain ⟨rfl, rfl, rfl⟩ := h
      exact Or.inl ⟨rfl, hlt⟩
    | cons first before =>
      rw [List.cons_append, List.cons.injEq] at h
      exact Or.inr ⟨before, previous, last, h.2, hlt⟩
  · rintro (⟨rfl, hlt⟩ | ⟨before, previous, last, h, hlt⟩)
    · exact ⟨[], p, q, rfl, hlt⟩
    · exact ⟨p :: before, previous, last, by rw [h, List.cons_append], hlt⟩

theorem rank_le_terminal (p : Preset) : p.rank ≤ rank .auditEvidence := by
  cases p <;> decide

/-- No step into the terminal preset goes up. -/
theorem not_endsUpward_of_terminal {ps : List Preset} (h : ps.getLast? = some .auditEvidence) :
    ¬ EndsUpward ps := by
  rintro ⟨before, previous, last, rfl, hlt⟩
  have hlast : last = .auditEvidence := by simpa using h
  have hle := previous.rank_le_terminal
  rw [hlast] at hlt
  omega

/-! ## One request -/

theorem switch_terminal : switch .auditEvidence q = .error ⟨.auditEvidence, q⟩ := rfl

theorem switch_of_ne (h : p ≠ .auditEvidence) :
    p.switch q = .ok ⟨p, q, q.rank < p.rank⟩ := by
  rw [switch, isTerminal, if_neg (by simpa using h)]

theorem mem_targets_iff : q ∈ p.targets ↔ ∃ step, p.switch q = .ok step := by
  by_cases h : p = .auditEvidence
  · subst h
    constructor
    · intro hq
      cases hq
    · rintro ⟨step, hstep⟩
      cases hstep
  · rw [switch_of_ne h, targets, isTerminal, if_neg (by simpa using h)]
    exact ⟨fun _ => ⟨_, rfl⟩, fun _ => Term.mem_all q⟩

/-! ## The answers to a run -/

theorem forecast_nil : p.forecast [] = [] := by
  rw [forecast, accepted_nil, List.zipWith_nil_right]
  rfl

theorem forecast_terminal :
    forecast .auditEvidence requests = requests.map fun requested =>
      .error ⟨.auditEvidence, requested⟩ := by
  rw [forecast, accepted_terminal, List.zipWith_nil_right]
  rfl

theorem forecast_cons (h : p ≠ .auditEvidence) :
    p.forecast (q :: requests) = .ok ⟨p, q, q.rank < p.rank⟩ :: q.forecast requests := by
  rw [forecast, path, accepted_cons h, List.zipWith_cons_cons, List.length_cons,
    List.drop_succ_cons]
  rfl

end Preset

namespace Lens

open Preset

/-- The lens after requests, accepted or refused. -/
def run (l : Lens) (requests : List Preset) : Lens :=
  requests.foldl after l

/-- The answers to requests made one after the other. -/
def answers (l : Lens) : List Preset → List (Except LockedPreset Switch)
  | [] => []
  | requested :: requests => l.current.switch requested :: (l.after requested).answers requests

variable {l : Lens} {p q : Preset}

theorem after_terminal (h : l.current = .auditEvidence) : l.after q = l := by
  rw [after, h, switch_terminal]

theorem after_of_ne (h : l.current ≠ .auditEvidence) :
    l.after q = ⟨q, q.rank < l.current.rank⟩ := by
  rw [after, switch_of_ne h]

theorem run_terminal (h : l.current = .auditEvidence) (requests : List Preset) :
    l.run requests = l := by
  induction requests with
  | nil => rfl
  | cons q requests ih => rw [run, List.foldl_cons, after_terminal h, ← run, ih]

theorem run_cons (requests : List Preset) : l.run (q :: requests) = (l.after q).run requests := rfl

theorem answers_eq_forecast (l : Lens) (requests : List Preset) :
    l.answers requests = l.current.forecast requests := by
  induction requests generalizing l with
  | nil => rw [answers, forecast_nil]
  | cons q requests ih =>
    rw [answers, ih]
    by_cases h : l.current = .auditEvidence
    · rw [after_terminal h, h, switch_terminal, forecast_terminal, forecast_terminal,
        List.map_cons]
    · rw [after_of_ne h, switch_of_ne h, forecast_cons h]

/-- A run ends where its path does. -/
theorem getLast?_path (l : Lens) (requests : List Preset) :
    (l.current.path requests).getLast? = some (l.run requests).current := by
  induction requests generalizing l with
  | nil => rw [path, accepted_nil]; rfl
  | cons q requests ih =>
    by_cases h : l.current = .auditEvidence
    · rw [run_terminal h, path, h, accepted_terminal]
      rfl
    · have hnext := ih (l.after q)
      rw [after_of_ne h] at hnext
      rw [run_cons, after_of_ne h, path, accepted_cons h, List.getLast?_cons_cons]
      exact hnext

/-- Only the last accepted request says whether the lens is read-only. -/
theorem readOnly_run (l : Lens) (requests : List Preset) :
    (l.run requests).readOnly = true ↔
      EndsUpward (l.current.path requests) ∨
        (l.current.accepted requests = [] ∧ l.readOnly = true) := by
  induction requests generalizing l with
  | nil =>
    rw [path, accepted_nil, or_iff_right not_endsUpward_singleton]
    exact (and_iff_right rfl).symm
  | cons q requests ih =>
    by_cases h : l.current = .auditEvidence
    · rw [run_terminal h, path, h, accepted_terminal, or_iff_right not_endsUpward_singleton]
      exact (and_iff_right rfl).symm
    · rw [run_cons, ih, after_of_ne h, path, path, accepted_cons h, endsUpward_cons_cons,
        decide_eq_true_eq]
      simp only [List.cons_ne_nil, false_and, or_false]
      exact or_comm

theorem readOnly_run_start (p : Preset) (requests : List Preset) :
    ((start p).run requests).readOnly = true ↔ EndsUpward (p.path requests) := by
  rw [readOnly_run]
  exact or_iff_left fun h => Bool.noConfusion h.2

-- a step up is forgotten with the next step down
example : (start .pmWork).run [.execSummary, .pmoControl] = ⟨.pmoControl, false⟩ := by decide

theorem writable_of_locked (requests : List Preset)
    (h : ((start p).run requests).isLocked = true) :
    ((start p).run requests).readOnly = false := by
  have hcurrent : ((start p).run requests).current = .auditEvidence := of_decide_eq_true h
  have hlast := getLast?_path (start p) requests
  rw [hcurrent] at hlast
  rw [← Bool.not_eq_true, readOnly_run_start]
  exact not_endsUpward_of_terminal hlast

/-- After the last accepted request the lens stays as it is. -/
theorem run_take (l : Lens) (requests : List Preset) {k : Nat}
    (h : (l.current.accepted requests).length ≤ k) : l.run (requests.take k) = l.run requests := by
  induction requests generalizing l k with
  | nil => rw [List.take_nil]
  | cons q requests ih =>
    by_cases hl : l.current = .auditEvidence
    · rw [run_terminal hl, run_terminal hl]
    · rw [accepted_cons hl, List.length_cons] at h
      cases k with
      | zero => omega
      | succ k =>
        rw [List.take_succ_cons, run_cons, run_cons]
        refine ih (l.after q) ?_
        rw [after_of_ne hl]
        exact Nat.le_of_succ_le_succ h

end Lens

end Wayfinder
