import Wayfinder.Proofs.Session.Switching

/-!
# Screens under a lens

`screens_run`: what a screen shows and offers after any requests for presets. Its policy is the
node's for the current preset, else the node's for its default preset, else the baseline, and no
other declared policy bears on it. Its actions are those that the grants of the opened session
permit; under a lens whose last step went up, only those that change nothing.

A screen is a function of its node, the lens and the grants (`openScreen_eq_ok_iff`); a run keeps
the grants and moves the lens as `Lens.run` says. So everything follows from what one choice of a
policy reads (`choose_congr`) and from the two filters on its actions.
-/

namespace Wayfinder

/-! ## One screen -/

namespace EffectivePolicy

variable {declared declared' : Policies} {default requested : Preset}

theorem policy_choose :
    (choose declared default requested).policy =
      ((declared.get? requested).or (declared.get? default)).getD Policy.baseline := by
  unfold choose
  cases declared.get? requested <;> cases declared.get? default <;> rfl

/-- Only two of the declared policies are read. -/
theorem choose_congr (hrequested : declared'.get? requested = declared.get? requested)
    (hdefault : declared'.get? default = declared.get? default) :
    choose declared' default requested = choose declared default requested := by
  rw [choose, hrequested, hdefault, ← choose]

end EffectivePolicy

namespace Policy

variable (p : Policy) (granted : TermSet Capability)

theorem actions_writable :
    p.actions granted false =
      p.suggestedActions.filter fun a => a.requiredCapability.all (· ∈ granted) := by
  refine List.filter_congr fun a _ => ?_
  rw [Bool.false_and, Bool.not_false, Bool.and_true, Action.permitted]

theorem actions_readOnly :
    p.actions granted true = (p.actions granted false).filter fun a => !a.mutating := by
  rw [actions_writable, List.filter_filter]
  refine List.filter_congr fun a _ => ?_
  rw [Bool.true_and, Bool.and_comm, Action.permitted]

end Policy

namespace Session

open Preset (EndsUpward)

section one

variable {s : Session} {id : String} {schema : FilterSchema} {query : Option String}
  {screen : Screen}

theorem openScreen_eq_ok_iff :
    s.openScreen id schema query = .ok screen ↔
      ∃ n, s.node id = .ok n ∧ s.screenOf schema query n = screen := by
  rw [openScreen_eq_map]
  cases s.node id <;> simp [Except.map]

theorem node_of_openScreen (h : s.openScreen id schema query = .ok screen) :
    s.node id = .ok screen.node := by
  obtain ⟨n, hn, rfl⟩ := openScreen_eq_ok_iff.mp h
  exact hn

theorem policy_of_openScreen (h : s.openScreen id schema query = .ok screen) :
    screen.policy.policy =
      ((screen.node.policies.get? s.lens.current).or
        (screen.node.policies.get? screen.node.defaultPreset)).getD Policy.baseline := by
  obtain ⟨n, -, rfl⟩ := openScreen_eq_ok_iff.mp h
  exact EffectivePolicy.policy_choose

theorem actions_of_openScreen (h : s.openScreen id schema query = .ok screen) :
    screen.actions = screen.policy.policy.actions s.granted s.lens.readOnly := by
  obtain ⟨n, -, rfl⟩ := openScreen_eq_ok_iff.mp h
  rfl

/-- A session with the same lens and grants opens the same screen on a node that differs only in
policies that the lens does not read. -/
theorem openScreen_redeclared {s' : Session} {declared : Policies} (hlens : s'.lens = s.lens)
    (hgranted : s'.granted = s.granted) (h : s.openScreen id schema query = .ok screen)
    (hfound : s'.engine.registry.get? id = some { screen.node with policies := declared })
    (hcurrent : declared.get? s.lens.current = screen.node.policies.get? s.lens.current)
    (hdefault : declared.get? screen.node.defaultPreset =
      screen.node.policies.get? screen.node.defaultPreset) :
    s'.openScreen id schema query =
      .ok { screen with node := { screen.node with policies := declared } } := by
  obtain ⟨n, hn, rfl⟩ := openScreen_eq_ok_iff.mp h
  -- who may see a node does not depend on its policies
  have hpermits : n.permits s.granted = true := (mem_visible.mp (node_eq_ok_iff.mp hn).1).2
  have hpolicy : ({ n with policies := declared } : Node).effectivePolicy s.lens.current =
      n.effectivePolicy s.lens.current :=
    EffectivePolicy.choose_congr hcurrent hdefault
  refine openScreen_eq_ok_iff.mpr ⟨{ n with policies := declared }, ?_, ?_⟩
  · rw [node, Registry.get, hfound, hgranted]
    exact if_pos hpermits
  · unfold screenOf
    rw [hlens, hgranted, hpolicy]

end one

/-! ## After a run -/

theorem lens_run_start (e : Engine) (sid role : String) (granted : TermSet Capability)
    (requests : List Preset) :
    ((start e sid role granted).run requests).lens =
      (Lens.start (e.roles.presetFor role)).run requests := by
  rw [run_eq]
  rfl

theorem after_of_switch_eq_error {s : Session} {q : Preset} {err : EngineError}
    (h : s.switch q = .error err) : s.after q = s := by
  by_cases hcurrent : s.lens.current = .auditEvidence
  · rw [after, Lens.after_terminal hcurrent]
  · rw [switch, Preset.switch_of_ne hcurrent] at h
    cases h

/-- **Screens under a lens** show the policy that the preset chooses and offer what the grants
permit, whatever was requested before. -/
theorem screens_run (e : Engine) (sid role : String) (granted : TermSet Capability)
    (requests : List Preset) :
    let s := (start e sid role granted).run requests
    let path := (e.roles.presetFor role).path requests
    (∀ id schema query screen, s.openScreen id schema query = .ok screen →
      s.node id = .ok screen.node ∧
        path.getLast? = some s.lens.current ∧
        screen.policy.policy =
          ((screen.node.policies.get? s.lens.current).or
            (screen.node.policies.get? screen.node.defaultPreset)).getD Policy.baseline ∧
        (let permitted := screen.policy.policy.suggestedActions.filter fun a =>
          a.requiredCapability.all (· ∈ granted)
         (EndsUpward path → screen.actions = permitted.filter fun a => !a.mutating) ∧
          (¬ EndsUpward path → screen.actions = permitted)) ∧
        ∀ (e' : Engine) (sid' : String) (declared : Policies),
          e'.roles.presetFor role = e.roles.presetFor role →
          e'.registry.get? id = some { screen.node with policies := declared } →
          declared.get? s.lens.current = screen.node.policies.get? s.lens.current →
          declared.get? screen.node.defaultPreset =
            screen.node.policies.get? screen.node.defaultPreset →
          ((start e' sid' role granted).run requests).openScreen id schema query =
            .ok { screen with node := { screen.node with policies := declared } }) ∧
      (∀ q err, s.switch q = .error err → s.after q = s) ∧
      s.granted = granted ∧ ∀ q, (s.after q).granted = granted := by
  intro s path
  have hlens : s.lens = (Lens.start (e.roles.presetFor role)).run requests :=
    lens_run_start e sid role granted requests
  have hgranted : s.granted = granted := granted_run _ requests
  refine ⟨?_, fun q err => after_of_switch_eq_error, hgranted, fun q => hgranted⟩
  have hreadOnly : s.lens.readOnly = true ↔ EndsUpward path := by
    rw [hlens]
    exact Lens.readOnly_run_start _ requests
  intro id schema query screen h
  have hactions := actions_of_openScreen h
  rw [hgranted] at hactions
  refine ⟨node_of_openScreen h, ?_, policy_of_openScreen h, ⟨?_, ?_⟩, ?_⟩
  · rw [hlens]
    exact (Lens.start _).getLast?_path requests
  · intro hup
    rw [hactions, hreadOnly.mpr hup, Policy.actions_readOnly, Policy.actions_writable]
  · intro hup
    rw [hactions, Bool.eq_false_iff.mpr (fun h => hup (hreadOnly.mp h)), Policy.actions_writable]
  · intro e' sid' declared hroles hfound hcurrent hdefault
    refine openScreen_redeclared ?_ ?_ h ?_ hcurrent hdefault
    · rw [lens_run_start, hroles, hlens]
    · exact (granted_run _ requests).trans hgranted.symm
    · rwa [engine_run]

/-- A summary opened from the working preset: the default policy without its mutating action, and
the policy of a third preset left unread. -/
theorem screens_run_summary :
    let view : Action := { key := "view", label := "View" }
    let edit : Action := { key := "edit", label := "Edit", mutating := true }
    let working : Policies := .ofList [(.pmWork, { suggestedActions := [view, edit, view] })]
    let n : Node := { id := "risks", label := "Risks", route := "/risks", domain := .overview,
                      defaultPreset := .pmWork, policies := working }
    let n' := { n with policies := working.insert .pmoControl { suggestedActions := [edit] } }
    let e : Engine := { registry := ⟨[n], by decide, by decide, by decide⟩, roles := ⟨{}, .pmWork⟩ }
    let e' := { e with registry := ⟨[n'], by decide, by decide, by decide⟩ }
    let schema : FilterSchema := ⟨[], by decide, by decide, by decide, by decide⟩
    let s := (start e "" "pm" .empty).run [.execSummary]
    ∃ screen, s.openScreen "risks" schema none = .ok screen ∧ screen.actions = [view, view] ∧
      ((start e' "" "pm" .empty).run [.execSummary]).openScreen "risks" schema none =
        .ok { screen with node := n' } := by
  intro view edit working n n' e e' schema s
  have hup : Preset.EndsUpward [.pmWork, .execSummary] :=
    ⟨[], .pmWork, .execSummary, rfl, by decide⟩
  have hopen : s.openScreen "risks" schema none = .ok (s.screenOf schema none n) := rfl
  obtain ⟨-, -, -, hactions, hredeclared⟩ :=
    (screens_run e "" "pm" .empty [.execSummary]).1 _ _ _ _ hopen
  exact ⟨_, hopen, (hactions.1 hup).trans (by decide),
    hredeclared e' "" n'.policies rfl rfl rfl rfl⟩

end Session

end Wayfinder
