import Wayfinder.Proofs.Preset.Runs
import Wayfinder.Proofs.Session.Visibility

/-!
# Runs of requests in a session

`switch_runs`: what a run of requests for presets answers and where it ends, for a lens on its own
and for a session. A session passes each request on to its lens and changes nothing else
(`answers_eq_map`, `run_eq`), so its runs are those of the lens of its role.
-/

namespace Wayfinder

namespace Session

variable (s : Session)

/-- The answers to requests made one after the other. -/
def answers (s : Session) : List Preset → List (Except EngineError Switch)
  | [] => []
  | requested :: requests => s.switch requested :: (s.after requested).answers requests

theorem answers_eq_map (requests : List Preset) :
    s.answers requests = (s.lens.answers requests).map (·.mapError .locked) := by
  induction requests generalizing s with
  | nil => rfl
  | cons q requests ih =>
    rw [answers, ih, Lens.answers, List.map_cons]
    rfl

theorem run_eq (requests : List Preset) :
    s.run requests = { s with lens := s.lens.run requests } := by
  induction requests generalizing s with
  | nil => rfl
  | cons q requests ih => exact ih (s.after q)

theorem switch_eq_ok_iff {q : Preset} {step : Switch} :
    s.switch q = .ok step ↔ s.lens.current.switch q = .ok step := by
  rw [switch]
  cases s.lens.current.switch q <;> simp [Except.mapError]

/-- **Runs of requests for presets**, on a lens and in a session. -/
theorem switch_runs (p : Preset) (requests : List Preset) (e : Engine) (sid role : String)
    (granted : TermSet Capability) :
    (let l := (Lens.start p).run requests
     (Lens.start p).answers requests = p.forecast requests ∧
      (∀ k, (p.accepted requests).length ≤ k → (Lens.start p).run (requests.take k) = l) ∧
      (p.path requests).getLast? = some l.current ∧
      (l.readOnly = true ↔ Preset.EndsUpward (p.path requests)) ∧
      (l.isLocked = true → l.readOnly = false) ∧
      ∀ q, q ∈ l.current.targets ↔ ∃ step, l.current.switch q = .ok step) ∧
      let opened := Session.start e sid role granted
      let s := opened.run requests
      let p' := e.roles.presetFor role
      opened.answers requests = (p'.forecast requests).map (·.mapError .locked) ∧
        (∀ k, (p'.accepted requests).length ≤ k → opened.run (requests.take k) = s) ∧
        s = { opened with lens := (Lens.start p').run requests } ∧
        (p'.path requests).getLast? = some s.lens.current ∧
        (s.lens.readOnly = true ↔ Preset.EndsUpward (p'.path requests)) ∧
        (s.lens.isLocked = true → s.lens.readOnly = false) ∧
        ∀ q, q ∈ s.targets ↔ ∃ step, s.switch q = .ok step := by
  refine ⟨⟨(Lens.start p).answers_eq_forecast requests,
    fun k hk => (Lens.start p).run_take requests hk, (Lens.start p).getLast?_path requests,
    Lens.readOnly_run_start p requests, Lens.writable_of_locked requests,
    fun q => Preset.mem_targets_iff⟩, ?_⟩
  intro opened s p'
  have hrun : s = { opened with lens := (Lens.start p').run requests } := opened.run_eq requests
  refine ⟨?_, ?_, hrun, ?_, ?_, ?_, ?_⟩
  · have hanswers : opened.lens.answers requests = p'.forecast requests :=
      (Lens.start p').answers_eq_forecast requests
    rw [answers_eq_map, hanswers]
  · intro k hk
    have htake : opened.lens.run (requests.take k) = (Lens.start p').run requests :=
      (Lens.start p').run_take requests hk
    rw [hrun, run_eq, htake]
  · rw [hrun]
    exact (Lens.start p').getLast?_path requests
  · rw [hrun]
    exact Lens.readOnly_run_start p' requests
  · rw [hrun]
    exact Lens.writable_of_locked requests
  · intro q
    rw [targets, Preset.mem_targets_iff]
    simp only [switch_eq_ok_iff]

end Session

end Wayfinder
