import Mathlib
import Buildwright.Pipeline.Schedule
import Buildwright.Proofs.Manifest.Acceptance

/-!
# Schedules

Everything that a pipeline is going to do can be written down in advance as one list of steps. A run
takes the steps of this schedule in order, each on what the ones before it have made of the
compilation, and ends with the last of them or with the first that fails.
-/

namespace Buildwright

/-- The steps of a phase: the hooks before it, the phase, the hooks after it. -/
def Phase.steps (plugins : List Plugin) (p : Phase) : List Step :=
  plugins.map (·.beforeStep p.name) ++ [p.step] ++ plugins.map (·.afterStep p.name)

def schedule (plugins : List Plugin) (phases : List Phase) : List Step :=
  phases.flatMap (Phase.steps plugins)

def Pipeline.builtinSchedule (p : Pipeline) : List Step :=
  Buildwright.schedule p.plugins (Phase.builtin p.lints)

def Pipeline.schedule (p : Pipeline) : List Step :=
  Buildwright.schedule p.plugins (Phase.builtin p.lints ++ p.phases)

/-- What the steps make of a compilation one after the other, unless one of them fails. -/
def Compilation.after (c : Compilation) (steps : List Step) : Except String Compilation :=
  steps.foldlM (fun c s => s.act c) c

/-- Takes the steps one after the other. -/
def Run.ofSteps (steps : List Step) (c : Compilation) : Run := .ofWork (steps.forM Step.take) c

/-- The step in the `k`-th place failed. -/
def Run.FailsAt (r : Run) (k : Nat) (e : String) : Prop :=
  ∃ s c, r.begun[k]? = some (s, c) ∧ s.act c = .error e

structure Plugin.Watches (plugin : Plugin) : Prop where
  before : ∀ phase c c', plugin.before phase c = .ok c' → c' = c
  after : ∀ phase c c', plugin.after phase c = .ok c' → c' = c

/-! ## The nested loops -/

namespace Phase

theorem carryOut_eq (plugins : List Plugin) (p : Phase) :
    p.carryOut plugins = (p.steps plugins).forM Step.take := by
  simp only [carryOut, steps, List.forM_eq_forM, List.forM_append, List.forM_map, List.forM_cons,
    List.forM_nil, bind_assoc, bind_pure_unit]

theorem forM_carryOut (plugins : List Plugin) (phases : List Phase) :
    phases.forM (carryOut plugins) = (schedule plugins phases).forM Step.take := by
  simp only [List.forM_eq_forM]
  induction phases with
  | nil => rfl
  | cons p rest ih =>
    have hsplit : schedule plugins (p :: rest) = p.steps plugins ++ schedule plugins rest := rfl
    rw [List.forM_cons, ih, hsplit, List.forM_append, carryOut_eq, List.forM_eq_forM]

end Phase

namespace Pipeline

theorem schedule_eq (p : Pipeline) :
    p.schedule = p.builtinSchedule ++ Buildwright.schedule p.plugins p.phases :=
  List.flatMap_append

theorem run_eq_ofSteps (p : Pipeline) (m : Manifest) :
    p.run m = .ofSteps p.schedule (.start m) := by
  have hwork : p.work = p.schedule.forM Step.take := by
    simp only [work, Phase.forM_carryOut, schedule_eq, builtinSchedule, List.forM_eq_forM,
      List.forM_append]
  rw [run, hwork, Run.ofSteps]

end Pipeline

/-! ## Step by step -/

namespace Step

theorem run_take (s : Step) (begun : List (Step × Compilation)) (c : Compilation) :
    s.take.run.run ⟨begun, c⟩ =
      (match s.act c with
        | .error e => (.error e, ⟨begun ++ [(s, c)], c⟩)
        | .ok c' => (.ok (), ⟨begun ++ [(s, c)], c'⟩) : Except String Unit × Progress) := by
  have hacts : s.take.run.run ⟨begun, c⟩ =
      (match s.act c with
        | .error e => throw e
        | .ok c' => modify fun p => { p with current := c' } : Work Unit).run.run
          ⟨begun ++ [(s, c)], c⟩ := rfl
  rw [hacts]
  cases s.act c <;> rfl

end Step

namespace Run

variable {s : Step} {rest : List Step} {c c' : Compilation} {e : String}

theorem run_forM_cons (s : Step) (rest : List Step) (begun : List (Step × Compilation))
    (c : Compilation) :
    ((s :: rest).forM Step.take).run.run ⟨begun, c⟩ =
      (match s.act c with
        | .error e => (.error e, ⟨begun ++ [(s, c)], c⟩)
        | .ok c' => (rest.forM Step.take).run.run ⟨begun ++ [(s, c)], c'⟩ :
          Except String Unit × Progress) := by
  have hcons : (s :: rest).forM Step.take = s.take >>= fun _ => rest.forM Step.take := rfl
  rw [hcons, ExceptT.run_bind, StateT.run_bind, Step.run_take]
  cases s.act c <;> rfl

theorem run_forM_append (steps : List Step) (done begun : List (Step × Compilation))
    (c : Compilation) :
    (steps.forM Step.take).run.run ⟨done ++ begun, c⟩ =
      ((steps.forM Step.take).run.run ⟨begun, c⟩ : Except String Unit × Progress).map id
        fun p => { p with begun := done ++ p.begun } := by
  induction steps generalizing begun c with
  | nil => rfl
  | cons s rest ih =>
    rw [run_forM_cons, run_forM_cons]
    cases s.act c with
    | error e => rw [List.append_assoc]; rfl
    | ok c' => rw [List.append_assoc]; exact ih _ c'

theorem ofSteps_nil (c : Compilation) : ofSteps [] c = ⟨[], .ok c⟩ := rfl

theorem ofSteps_of_error (h : s.act c = .error e) :
    ofSteps (s :: rest) c = ⟨[(s, c)], .error e⟩ := by
  rw [ofSteps, ofWork, run_forM_cons, h]
  rfl

theorem ofSteps_of_ok (h : s.act c = .ok c') :
    ofSteps (s :: rest) c = ⟨(s, c) :: (ofSteps rest c').begun, (ofSteps rest c').outcome⟩ := by
  rw [ofSteps, ofWork, run_forM_cons, h]
  have hrest := run_forM_append rest [(s, c)] [] c'
  rw [List.append_nil] at hrest
  simp only [List.nil_append, hrest]
  rfl

end Run

namespace Compilation

variable {s : Step} {c c' : Compilation} {e : String}

theorem after_cons_of_error (rest : List Step) (h : s.act c = .error e) :
    c.after (s :: rest) = .error e := by
  rw [after, List.foldlM_cons, h]
  rfl

theorem after_cons_of_ok (rest : List Step) (h : s.act c = .ok c') :
    c.after (s :: rest) = c'.after rest := by
  rw [after, List.foldlM_cons, h]
  rfl

end Compilation

namespace Run

theorem outcome_ofSteps (steps : List Step) (c : Compilation) :
    (ofSteps steps c).outcome = c.after steps := by
  induction steps generalizing c with
  | nil => rfl
  | cons s rest ih =>
    cases hact : s.act c with
    | error e => rw [ofSteps_of_error hact, Compilation.after_cons_of_error rest hact]
    | ok c' => rw [ofSteps_of_ok hact, Compilation.after_cons_of_ok rest hact, ih]

/-- A step is begun on what the steps before it have made of the compilation, if none failed. -/
theorem getElem?_begun {steps : List Step} {k : Nat} {s : Step} {c d : Compilation} :
    (ofSteps steps c).begun[k]? = some (s, d) ↔
      steps[k]? = some s ∧ c.after (steps.take k) = .ok d := by
  induction steps generalizing k c with
  | nil => simp [ofSteps_nil]
  | cons t rest ih =>
    cases k with
    | zero =>
      have hfirst : (ofSteps (t :: rest) c).begun[0]? = some (t, c) := by
        cases hact : t.act c with
        | error e => rw [ofSteps_of_error hact]; rfl
        | ok c' => rw [ofSteps_of_ok hact]; rfl
      have hnone : c.after [] = .ok c := rfl
      simp [hfirst, hnone]
    | succ k =>
      rw [List.getElem?_cons_succ, List.take_succ_cons]
      cases hact : t.act c with
      | error e =>
        rw [ofSteps_of_error hact, Compilation.after_cons_of_error _ hact]
        simp
      | ok c' =>
        rw [ofSteps_of_ok hact, Compilation.after_cons_of_ok _ hact, ← ih]
        rfl

theorem of_not_failsAt {steps : List Step} {c : Compilation}
    (h : ∀ k e, ¬ (ofSteps steps c).FailsAt k e) :
    (ofSteps steps c).begun.map Prod.fst = steps ∧ ∃ d, (ofSteps steps c).outcome = .ok d := by
  induction steps generalizing c with
  | nil => exact ⟨rfl, c, rfl⟩
  | cons s rest ih =>
    cases hact : s.act c with
    | error e =>
      rw [ofSteps_of_error hact] at h
      exact absurd ⟨s, c, rfl, hact⟩ (h 0 e)
    | ok c' =>
      rw [ofSteps_of_ok hact] at h ⊢
      obtain ⟨hsteps, hend⟩ := ih fun k e hfails => h (k + 1) e hfails
      exact ⟨congrArg (s :: ·) hsteps, hend⟩

theorem of_failsAt {steps : List Step} {c : Compilation} {k : Nat} {e : String}
    (h : (ofSteps steps c).FailsAt k e) :
    (ofSteps steps c).begun.map Prod.fst = steps.take (k + 1) ∧
      (ofSteps steps c).outcome = .error e := by
  induction steps generalizing c k with
  | nil =>
    obtain ⟨s, d, hs, _⟩ := h
    cases hs
  | cons t rest ih =>
    obtain ⟨s, d, hs, hfails⟩ := h
    cases hact : t.act c with
    | error e' =>
      rw [ofSteps_of_error hact] at hs ⊢
      cases k with
      | zero =>
        cases hs
        rw [hact] at hfails
        cases hfails
        exact ⟨rfl, rfl⟩
      | succ k => cases hs
    | ok c' =>
      rw [ofSteps_of_ok hact] at hs ⊢
      cases k with
      | zero =>
        cases hs
        rw [hact] at hfails
        cases hfails
      | succ k =>
        obtain ⟨hsteps, hend⟩ := ih ⟨s, d, hs, hfails⟩
        exact ⟨congrArg (t :: ·) hsteps, hend⟩

/-- The steps do what the first `k` steps of the run did, on what these started from. -/
def RetracedBy (r : Run) (k : Nat) (steps : List Step) : Prop :=
  ∀ j < k, ∀ s d, r.begun[j]? = some (s, d) → ∃ s', steps[j]? = some s' ∧ s'.act d = s.act d

/-- Steps that retrace a run up to its failure start from the same as those of the run, the one in
the place of the failing step included. -/
theorem map_snd_begun_of_retracedBy {steps steps' : List Step} {c : Compilation} {k : Nat}
    {e : String} (hfails : (ofSteps steps c).FailsAt k e)
    (hretraced : (ofSteps steps c).RetracedBy k steps') (hk : k < steps'.length) :
    ((ofSteps steps' c).begun.map Prod.snd).take (k + 1) =
      (ofSteps steps c).begun.map Prod.snd := by
  induction steps generalizing steps' c k with
  | nil =>
    obtain ⟨s, d, hs, _⟩ := hfails
    cases hs
  | cons t rest ih =>
    obtain ⟨s, d, hs, hfails⟩ := hfails
    obtain ⟨t', rest', rfl⟩ := List.exists_cons_of_length_pos (Nat.zero_lt_of_lt hk)
    cases hact : t.act c with
    | error e' =>
      rw [ofSteps_of_error hact] at hs ⊢
      cases k with
      | zero =>
        cases hact' : t'.act c with
        | error _ => rw [ofSteps_of_error hact']; rfl
        | ok _ => rw [ofSteps_of_ok hact']; rfl
      | succ k => cases hs
    | ok c' =>
      rw [ofSteps_of_ok hact] at hs hretraced ⊢
      cases k with
      | zero =>
        cases hs
        rw [hact] at hfails
        cases hfails
      | succ k =>
        obtain ⟨_, hfirst, hact'⟩ := hretraced 0 (Nat.succ_pos k) t c rfl
        cases hfirst
        rw [ofSteps_of_ok (hact'.trans hact)]
        have hrest := ih ⟨s, d, hs, hfails⟩
          (fun j hj => hretraced (j + 1) (Nat.succ_lt_succ hj)) (Nat.lt_of_succ_lt_succ hk)
        exact congrArg (c :: ·) hrest

end Run

/-! ## What the first phases add -/

/-- What a step does to a compilation: it says more about it, and only two of the phases make
callables and builders. -/
structure Step.Adds (s : Step) (c c' : Compilation) : Prop where
  manifest : c'.manifest = c.manifest
  diagnostics : c.diagnostics <+: c'.diagnostics
  callables : c'.callables ≠ c.callables → s.moment = .phase ∧ s.phase = Compilation.extractPhase
  builders : c'.builders ≠ c.builders → s.moment = .phase ∧ s.phase = Compilation.synthesizePhase

theorem Step.adds_refl (s : Step) (c : Compilation) : s.Adds c c where
  manifest := rfl
  diagnostics := List.prefix_rfl
  callables h := absurd rfl h
  builders h := absurd rfl h

theorem Phase.adds_of_mem_builtin {lints : List Lint} {p : Phase} (hp : p ∈ Phase.builtin lints)
    {c c' : Compilation} (hrun : p.run c = .ok c') : p.step.Adds c c' := by
  simp only [builtin, List.mem_cons, List.not_mem_nil, or_false] at hp
  rcases hp with rfl | rfl | rfl
  case inl =>
    cases hrun
    exact
      { manifest := rfl
        diagnostics := List.prefix_append _ _
        callables := fun _ => ⟨rfl, rfl⟩
        builders := fun h => absurd rfl h }
  case inr.inl =>
    cases hrun
    exact
      { manifest := rfl
        diagnostics := List.prefix_append _ _
        callables := fun h => absurd rfl h
        builders := fun _ => ⟨rfl, rfl⟩ }
  case inr.inr =>
    cases hrun
    exact
      { manifest := rfl
        diagnostics := List.prefix_append _ _
        callables := fun h => absurd rfl h
        builders := fun h => absurd rfl h }

theorem Pipeline.adds_of_mem_builtinSchedule {p : Pipeline}
    (hwatch : ∀ plugin ∈ p.plugins, plugin.Watches) {s : Step} (hs : s ∈ p.builtinSchedule)
    {c c' : Compilation} (hact : s.act c = .ok c') : s.Adds c c' := by
  obtain ⟨phase, hphase, hs⟩ := List.mem_flatMap.1 hs
  rw [Phase.steps, List.mem_append, List.mem_append, List.mem_map, List.mem_map,
    List.mem_singleton] at hs
  rcases hs with (⟨plugin, hplugin, rfl⟩ | rfl) | ⟨plugin, hplugin, rfl⟩
  · rw [(hwatch plugin hplugin).before _ _ _ hact]
    exact Step.adds_refl _ c
  · exact Phase.adds_of_mem_builtin hphase hact
  · rw [(hwatch plugin hplugin).after _ _ _ hact]
    exact Step.adds_refl _ c

/-! ## Runs of pipelines -/

namespace Pipeline

/-- The pipeline of the command line makes of a manifest what the phases make of it. -/
theorem outcome_run_tracing (m : Manifest) :
    ((⟨Lint.all, [], [tracing]⟩ : Pipeline).run m).outcome = .ok (.ofManifest m) := by
  rw [run_eq_ofSteps, Run.outcome_ofSteps]
  rfl

/-- A run takes exactly the steps of its schedule if none fails, and otherwise those up to the first
that fails, whose error it ends with. Each step starts from what the steps before it have made of the
manifest, so up to the failure everything is as it would be with another step in that place. Among
plugins that only watch, the first phases add diagnostics behind the ones that are there, and the
callables and the builders are each made by one of these phases alone. -/
theorem run_follows_schedule (p : Pipeline) (m : Manifest) :
    ((∀ k e, ¬ (p.run m).FailsAt k e) →
        (p.run m).begun.map Prod.fst = p.schedule ∧ ∃ c, (p.run m).outcome = .ok c) ∧
      (∀ k e, (p.run m).FailsAt k e →
        (p.run m).begun.map Prod.fst = p.schedule.take (k + 1) ∧
          (p.run m).outcome = .error e ∧
          (∀ j < k, ∀ e', ¬ (p.run m).FailsAt j e') ∧
          (∀ s, ((Run.ofSteps (p.schedule.set k s) (.start m)).begun.map Prod.snd).take (k + 1) =
            (p.run m).begun.map Prod.snd) ∧
          ∀ p' : Pipeline, (p.run m).RetracedBy k p'.schedule → k < p'.schedule.length →
            ((p'.run m).begun.map Prod.snd).take (k + 1) = (p.run m).begun.map Prod.snd) ∧
      (∀ k s c, (p.run m).begun[k]? = some (s, c) ↔
        p.schedule[k]? = some s ∧ (Compilation.start m).after (p.schedule.take k) = .ok c) ∧
      (p.run m).outcome = (Compilation.start m).after p.schedule ∧
      ((∀ plugin ∈ p.plugins, plugin.Watches) →
        ∀ k s c c', k < p.builtinSchedule.length → (p.run m).begun[k]? = some (s, c) →
          s.act c = .ok c' → s.Adds c c') := by
  rw [run_eq_ofSteps]
  refine ⟨Run.of_not_failsAt, fun k e hfails => ?failure, fun k s c => Run.getElem?_begun,
    Run.outcome_ofSteps _ _, fun hwatch k s c c' hk hs hact => ?builtin⟩
  case failure =>
    obtain ⟨hsteps, hend⟩ := Run.of_failsAt hfails
    have ⟨t, d, ht, _⟩ := hfails
    refine ⟨hsteps, hend, ?first, fun s => ?replaced, fun p' hretraced hk => ?retraced⟩
    case first =>
      intro j hj e' hfails'
      have hlength := congrArg List.length (Run.of_failsAt hfails').1
      rw [List.length_map, List.length_take] at hlength
      have hk : k < (Run.ofSteps p.schedule (.start m)).begun.length :=
        (List.getElem?_eq_some_iff.1 ht).1
      omega
    case replaced =>
      have hk : k < (p.schedule.set k s).length := by
        rw [List.length_set]
        exact (List.getElem?_eq_some_iff.1 (Run.getElem?_begun.1 ht).1).1
      refine Run.map_snd_begun_of_retracedBy hfails (fun j hj u c hu => ⟨u, ?_, rfl⟩) hk
      rw [List.getElem?_set_ne (by omega)]
      exact (Run.getElem?_begun.1 hu).1
    case retraced =>
      rw [run_eq_ofSteps]
      exact Run.map_snd_begun_of_retracedBy hfails hretraced hk
  case builtin =>
    have hmem : s ∈ p.builtinSchedule := by
      have hstep := (Run.getElem?_begun.1 hs).1
      rw [schedule_eq, List.getElem?_append_left hk] at hstep
      exact List.mem_of_getElem? hstep
    exact adds_of_mem_builtinSchedule hwatch hmem hact

def refusal : Phase := ⟨"refusal", "Refuse everything", fun _ => .error "refused"⟩

def refusing : Pipeline := ⟨Lint.all, [refusal, .extract], [tracing]⟩

def permissive : Pipeline := ⟨Lint.all, [{ refusal with run := .ok }, .extract], [tracing]⟩

/-- The run ends in the first further phase, and until then all is as where that phase passes. -/
theorem refusing_follows_schedule :
    (refusing.run Manifest.bagManifest).FailsAt 10 "refused" ∧
      (refusing.run Manifest.bagManifest).begun.map Prod.fst = refusing.schedule.take 11 ∧
      (refusing.run Manifest.bagManifest).outcome = .error "refused" ∧
      ((permissive.run Manifest.bagManifest).begun.map Prod.snd).take 11 =
        (refusing.run Manifest.bagManifest).begun.map Prod.snd ∧
      ∀ k s c c', k < refusing.builtinSchedule.length →
        (refusing.run Manifest.bagManifest).begun[k]? = some (s, c) → s.act c = .ok c' →
          s.Adds c c' := by
  obtain ⟨-, hfailure, hbegun, -, hadds⟩ := run_follows_schedule refusing Manifest.bagManifest
  have hfails : (refusing.run Manifest.bagManifest).FailsAt 10 "refused" :=
    ⟨refusal.step, .ofManifest Manifest.bagManifest, (hbegun 10 _ _).2 ⟨rfl, rfl⟩, rfl⟩
  have hretraced : (refusing.run Manifest.bagManifest).RetracedBy 10 permissive.schedule := by
    intro j hj s d h
    have hs := ((hbegun j s d).1 h).1
    refine ⟨s, ?_, rfl⟩
    rw [← hs]
    interval_cases j <;> rfl
  have hwatch : ∀ plugin ∈ refusing.plugins, plugin.Watches := by
    intro plugin hplugin
    cases List.mem_singleton.1 hplugin
    exact ⟨fun _ _ _ h => (Except.ok.inj h).symm, fun _ _ _ h => (Except.ok.inj h).symm⟩
  obtain ⟨hsteps, hend, -, -, hsame⟩ := hfailure 10 "refused" hfails
  exact ⟨hfails, hsteps, hend, hsame permissive hretraced (by decide), hadds hwatch⟩

end Pipeline

end Buildwright
