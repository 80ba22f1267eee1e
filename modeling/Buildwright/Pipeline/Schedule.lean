import Buildwright.Pipeline.Phase

/-!
# Runs

A pipeline takes a manifest through its phases, one after the other, each between the hooks of all
plugins. The first step that fails ends the run.

Phases and hooks are functions of the compilation. What a plugin may keep for itself from one hook
to the next, as one that counts or records its calls does, is not part of a run here; the steps
begun are on record instead.
-/

namespace Buildwright

/-- What is called before and after every phase, with the phase's name. -/
structure Plugin where
  name : String
  before : String → Compilation → Except String Compilation
  after : String → Compilation → Except String Compilation

inductive Moment where
  | before
  | phase
  | after
deriving Repr, DecidableEq

structure Step where
  moment : Moment
  /-- The phase that the step belongs to. -/
  phase : String
  act : Compilation → Except String Compilation

/-- A run under way: the steps begun so far, each with what it started from, and what they have made
of the compilation. -/
structure Progress where
  begun : List (Step × Compilation)
  current : Compilation

/-- Work on a compilation that may fail; what was begun stays on record. -/
abbrev Work := ExceptT String (StateM Progress)

def Step.take (s : Step) : Work Unit := do
  let p ← get
  set { p with begun := p.begun ++ [(s, p.current)] }
  match s.act p.current with
  | .error e => throw e
  | .ok c => modify fun p => { p with current := c }

namespace Plugin

def beforeStep (plugin : Plugin) (phase : String) : Step := ⟨.before, phase, plugin.before phase⟩

def afterStep (plugin : Plugin) (phase : String) : Step := ⟨.after, phase, plugin.after phase⟩

end Plugin

namespace Phase

def step (p : Phase) : Step := ⟨.phase, p.name, p.run⟩

def carryOut (plugins : List Plugin) (p : Phase) : Work Unit := do
  plugins.forM fun plugin => (plugin.beforeStep p.name).take
  p.step.take
  plugins.forM fun plugin => (plugin.afterStep p.name).take

end Phase

structure Run where
  begun : List (Step × Compilation)
  outcome : Except String Compilation

def Run.ofWork (work : Work Unit) (c : Compilation) : Run :=
  let (outcome, progress) := (work.run.run ⟨[], c⟩ : Except String Unit × Progress)
  ⟨progress.begun, outcome.map fun _ => progress.current⟩

/-- How manifests are compiled: the lints, further phases, and plugins. -/
structure Pipeline where
  lints : List Lint
  phases : List Phase
  plugins : List Plugin

namespace Pipeline

def work (p : Pipeline) : Work Unit := do
  (Phase.builtin p.lints).forM (Phase.carryOut p.plugins)
  p.phases.forM (Phase.carryOut p.plugins)

def run (p : Pipeline) (m : Manifest) : Run := .ofWork p.work (.start m)

/-- The plugin that the command line runs with; it only watches. -/
def tracing : Plugin := ⟨"tracing", fun _ c => .ok c, fun _ c => .ok c⟩

end Pipeline

end Buildwright
