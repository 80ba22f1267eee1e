import Mathlib
import Buildwright.Gallery.Function
import Buildwright.Proofs.Source.Execution

/-!
# Fluent calls and direct calls

A builder's fields hold data with types of their own, and the terminal method passes on what it
finds. Where the fields, setters and types are those that callers of a model function know, such a
run is a call of the function itself: on the instance, with what each parameter was set to last, or
else with the zero value of its type.
-/

namespace Buildwright.Gallery

open Source

variable {ε ρ σ : Type}

/-! ## Zero values -/

namespace Kind

def zeroText : Kind → String
  | .i32 | .u32 => "0"
  | .optionalText => "None"
  | .text | .entries | .element | .elements => "Default::default()"

theorem value?_zeroText [Inhabited ε] (k : Kind) :
    k.value? k.zeroText = some (k.zero (ε := ε)) := by
  cases k <;> rfl

end Kind

/-! ## Arguments -/

abbrev Arguments (ε : Type) (params : Params) :=
  (i : Fin params.length) → (params.get i).2.Carrier ε

namespace Arguments

def data {params : Params} (args : Arguments ε params) : List (Datum ε) :=
  List.ofFn fun i => ⟨_, args i⟩

end Arguments

def Curried.on : (params : Params) → Curried ε ρ params → Arguments ε params → ρ
  | [], result, _ => result
  | _ :: rest, f, args => on rest (f (args 0)) fun i => args i.succ

theorem Curried.onData?_data (params : Params) (f : Curried ε ρ params)
    (args : Arguments ε params) :
    Curried.onData? params f args.data = some (Curried.on params f args) := by
  induction params with
  | nil => rfl
  | cons param rest ih =>
    rw [Arguments.data, List.ofFn_succ, Curried.onData?]
    exact (dif_pos rfl).trans (ih (f (args 0)) fun i => args i.succ)

namespace SetterCall

variable {params : Params}

def last? (i : Fin params.length) (calls : List (SetterCall ε params)) :
    Option ((params.get i).2.Carrier ε) :=
  calls.reverse.findSome? fun call => if h : call.param = i then some (h ▸ call.value) else none

def arguments [Inhabited ε] (calls : List (SetterCall ε params)) : Arguments ε params :=
  fun i => (last? i calls).getD (Kind.zero _)

/-- A call of a setter as one of the setter at the same place. -/
def step {n : Nat} (h : n = params.length) (call : SetterCall ε params) : Fin n × Content ε σ :=
  (call.param.cast h.symm, .datum call.datum)

theorem lastValue?_step {n : Nat} (h : n = params.length) (i : Fin params.length)
    (calls : List (SetterCall ε params)) :
    lastValue? (i.cast h.symm) (calls.map (step (σ := σ) h)) =
      (last? i calls).map fun value => .datum ⟨_, value⟩ := by
  subst h
  rw [lastValue?, last?, ← List.map_reverse]
  -- Both sides are the first hit when the calls are read from the end.
  induction calls.reverse with
  | nil => rfl
  | cons call rest ih =>
    obtain ⟨j, value⟩ := call
    rw [List.map_cons, List.findSome?_cons, step, List.lookup_cons]
    by_cases hj : j = i
    · subst hj
      simp [datum]
    · have hne : i.cast rfl ≠ j.cast rfl := fun heq => hj heq.symm
      rw [beq_false_of_ne hne, dif_neg hj]
      exact ih

theorem last?_filter (i : Fin params.length) (calls : List (SetterCall ε params)) :
    last? i (calls.filter (·.param = i)) = last? i calls := by
  rw [last?, last?, ← List.filter_reverse]
  induction calls.reverse with
  | nil => rfl
  | cons call rest ih =>
    by_cases hcall : call.param = i
    · rw [List.filter_cons_of_pos (by simpa using hcall), List.findSome?_cons, List.findSome?_cons,
        dif_pos hcall]
    · rw [List.filter_cons_of_neg (by simpa using hcall), List.findSome?_cons, dif_neg hcall]
      exact ih

theorem arguments_congr [Inhabited ε] {calls calls' : List (SetterCall ε params)}
    (h : ∀ i, calls.filter (·.param = i) = calls'.filter (·.param = i)) :
    arguments calls = arguments calls' := by
  funext i
  rw [arguments, arguments, ← last?_filter, h i, last?_filter]

end SetterCall

/-- The function itself, called on an instance with the arguments after calls of setters. -/
def ModelFunction.direct [Inhabited ε] (f : ModelFunction ε) (s : f.Self)
    (calls : List (SetterCall ε f.params)) : Except Panic f.Result :=
  Curried.on f.params (f.call s) (SetterCall.arguments calls)

/-! ## Builders that fit a function -/

/-- The setter, type and zero value of a parameter are those that callers know. -/
structure Stands (r : Resolution) (p : Param) (known : String × Kind) : Prop where
  setter : methodName (setterName p.name) = "set_" ++ known.1
  kind : Kind.ofText? (r.substitute p.ty).toString = some known.2
  zero : zeroText (.ofType (r.substitute p.ty)) = known.2.zeroText

instance (r : Resolution) (p : Param) (known : String × Kind) : Decidable (Stands r p known) :=
  decidable_of_iff
    (methodName (setterName p.name) = "set_" ++ known.1 ∧
      Kind.ofText? (r.substitute p.ty).toString = some known.2 ∧
      zeroText (.ofType (r.substitute p.ty)) = known.2.zeroText)
    ⟨fun ⟨setter, kind, zero⟩ => ⟨setter, kind, zero⟩, fun h => ⟨h.setter, h.kind, h.zero⟩⟩

/-- The names of a builder's methods: the constructor, the setters and the terminal method. -/
def Interface.methods (i : Interface) : List String :=
  "new" :: (i.params.map fun known => "set_" ++ known.1) ++ [i.terminal]

def Target.ofCallee : Callee → Target
  | .method _ name => .method name
  | .function path => .function path

/-- The builder of a resolved callable has the names and types that callers know. -/
structure Interface.Fits (i : Interface) (c : Callable) (r : Resolution) : Prop where
  builder : c.builderName = i.builder
  terminal : methodName c.terminalName = i.terminal
  selfType : (c.synthesize r).receiver.map (·.ty.toString) = i.selfType
  target : Target.ofCallee (calleeOf (c.synthesize r)) = i.target
  mutating : i.isMutating = true → (c.synthesize r).receiver.map (·.mode) = some .refMut
  params : List.Forall₂ (Stands r) c.params i.params
  fields : (c.params.map fun p => fieldName p.name).Nodup
  methods : i.methods.Nodup

theorem Interface.fits_iff (i : Interface) (c : Callable) (r : Resolution) :
    (c.builderName = i.builder ∧ methodName c.terminalName = i.terminal ∧
      (c.synthesize r).receiver.map (·.ty.toString) = i.selfType ∧
      Target.ofCallee (calleeOf (c.synthesize r)) = i.target ∧
      (i.isMutating = true → (c.synthesize r).receiver.map (·.mode) = some .refMut) ∧
      List.Forall₂ (Stands r) c.params i.params ∧
      (c.params.map fun p => fieldName p.name).Nodup ∧ i.methods.Nodup) ↔ i.Fits c r :=
  ⟨fun ⟨builder, terminal, selfType, target, mutating, params, fields, methods⟩ =>
      ⟨builder, terminal, selfType, target, mutating, params, fields, methods⟩,
    fun h => ⟨h.builder, h.terminal, h.selfType, h.target, h.mutating, h.params, h.fields,
      h.methods⟩⟩

instance (i : Interface) (c : Callable) (r : Resolution) : Decidable (i.Fits c r) :=
  decidable_of_iff _ (i.fits_iff c r)

namespace ModelFunction

theorem zeroOf_ofText [Inhabited ε] {r : Resolution} {p : Param} {known : String × Kind}
    (h : Stands r p known) :
    zeroOf Content.ofText r p = (.datum ⟨known.2, known.2.zero⟩ : Content ε σ) := by
  rw [zeroOf, Content.ofText, h.kind, h.zero, Option.bind_some, Kind.value?_zeroText]
  rfl

section Run

variable {f : ModelFunction ε} {c : Callable} {r : Resolution} {deriveDebug : Bool}
variable (h : f.Fits c r)
include h

theorem length_params : c.params.length = f.params.length := h.params.length_eq

theorem names_methods :
    (layOut (c.synthesize r) deriveDebug).inherentImpl.methods.map (·.name) = f.methods := by
  have hsetters : (c.params.map fun p => methodName (setterName p.name)) =
      f.params.map fun known => "set_" ++ known.1 := by
    rw [← List.forall₂_eq_eq_eq, List.forall₂_map_left_iff, List.forall₂_map_right_iff]
    exact h.params.imp fun _ _ hparam => hparam.setter
  have hnames : List.ofFn (fun i => (setterAt c r i).name) =
      c.params.map fun p => methodName (setterName p.name) := by
    simp only [name_setterAt]
    exact List.ofFn_getElem_eq_map c.params fun p => methodName (setterName p.name)
  rw [Interface.methods, ← hsetters, ← hnames, ← h.terminal, methods_synthesize h.fields,
    List.map_cons, List.map_append, List.map_ofFn]
  rfl

theorem method?_eq {g : Source.Function}
    (hg : g ∈ (layOut (c.synthesize r) deriveDebug).inherentImpl.methods) :
    (layOut (c.synthesize r) deriveDebug).method? g.name = some g := by
  refine find?_of_nodup_map ?_ hg
  rw [names_methods h]
  exact h.methods

/-- The setter of a parameter is the one that its name finds, and it takes values of its type. -/
theorem setter?_eq (call : SetterCall ε f.params) :
    f.setter? (layOut (c.synthesize r) deriveDebug) call =
      some (setterAt c r (call.param.cast (length_params h).symm)) := by
  let i : Fin c.params.length := call.param.cast (length_params h).symm
  have hparam : Stands r c.params[i] (f.params.get call.param) :=
    h.params.get i.isLt call.param.isLt
  have hname : call.method = (setterAt c r i).name := by
    rw [SetterCall.method, ← hparam.setter, name_setterAt]
  have hmem : setterAt c r i ∈ (layOut (c.synthesize r) deriveDebug).inherentImpl.methods := by
    rw [methods_synthesize h.fields]
    exact List.mem_cons_of_mem _ (List.mem_append_left _ (List.mem_ofFn.2 ⟨i, rfl⟩))
  have hinput : inputTypes (setterAt c r i) = [(r.substitute c.params[i].ty).toString] := by
    rw [inputTypes, params_setterAt]
    rfl
  have htypes : (inputTypes (setterAt c r i)).map Kind.ofText? = [some call.datum.kind] := by
    rw [hinput, List.map_singleton, hparam.kind, SetterCall.datum]
  rw [setter?, hname, method?_eq h hmem]
  show (do
    guard ((inputTypes (setterAt c r i)).map Kind.ofText? = [some call.datum.kind])
    some (setterAt c r i)) = _
  rw [guard, if_pos htypes]
  rfl

theorem inputTypes_constructor :
    inputTypes (layOut (c.synthesize r) deriveDebug).constructor = f.selfType.toList := by
  rw [← h.selfType, inputTypes, BuilderCode.constructor, layOut]
  cases (c.synthesize r).receiver <;> rfl

theorem instances_constructor {α : Type} (x : α) :
    (f.selfType.toList.map fun _ => x) =
      (layOut (c.synthesize r) deriveDebug).constructor.params.map fun _ => x := by
  rw [← h.selfType, BuilderCode.constructor, layOut]
  cases (c.synthesize r).receiver <;> rfl

theorem answer?_eq (s : f.Self) (args : Arguments ε f.params) :
    f.answer? s ((calleeOf (c.synthesize r)).on (.self s) (args.data.map .datum)) =
      some (Curried.on f.params (f.call s) args) := by
  have hread : (Content.datum? ∘ (.datum : Datum ε → Content ε f.Self)) = fun d => pure d := rfl
  have hdata : (args.data.map (Content.datum (σ := f.Self))).mapM Content.datum? =
      some args.data := by
    rw [List.mapM_map, hread, List.mapM_pure, List.map_id']
    rfl
  rw [← Curried.onData?_data]
  cases hcallee : calleeOf (c.synthesize r) with
  | method field name =>
    have hmethod : f.target = .method name := by rw [← h.target, hcallee, Target.ofCallee]
    rw [Callee.on, answer?, guard, if_pos hmethod, hdata]
    rfl
  | function path =>
    have hfunction : f.target = .function path := by rw [← h.target, hcallee, Target.ofCallee]
    rw [Callee.on, answer?, guard, if_pos hfunction, hdata]
    rfl

variable [Inhabited ε]

theorem built?_eq (s : f.Self) (calls : List (SetterCall ε f.params)) :
    f.built? (layOut (c.synthesize r) deriveDebug) s calls =
      some (heldAfter c r deriveDebug .ofText (.self s)
        (calls.map (SetterCall.step (length_params h)))) := by
  have hmem : (layOut (c.synthesize r) deriveDebug).constructor ∈
      (layOut (c.synthesize r) deriveDebug).inherentImpl.methods := List.mem_cons_self
  have hnew : (layOut (c.synthesize r) deriveDebug).method? "new" =
      some (layOut (c.synthesize r) deriveDebug).constructor := method?_eq h hmem
  have hsteps : (calls.mapM fun call =>
      (f.setter? (layOut (c.synthesize r) deriveDebug) call).map
        (·, (.datum call.datum : Content ε f.Self))) =
      some ((calls.map (SetterCall.step (length_params h))).map fun call =>
        (setterAt c r call.1, call.2)) := by
    simp only [setter?_eq h, Option.map_some, List.map_map]
    exact List.mapM_pure
  rw [built?, hnew]
  simp only [Option.bind_eq_bind, Option.bind_some, hsteps, inputTypes_constructor h, guard, if_true]
  rw [instances_constructor h]
  exact built?_eq_heldAfter h.fields

/-- What the setters were given last, or the zero values, are the function's arguments. -/
theorem arguments_eq (calls : List (SetterCall ε f.params)) :
    passedOn c r Content.ofText
        (calls.map (SetterCall.step (σ := f.Self) (length_params h))) =
      (SetterCall.arguments calls).data.map .datum := by
  -- The callable's parameters and those that callers know correspond place by place.
  refine List.ext_getElem (by simp [passedOn, Arguments.data, length_params h]) fun i hi hi' => ?_
  have hi : i < c.params.length := by simpa [passedOn] using hi
  have hi' : i < f.params.length := by simpa [Arguments.data] using hi'
  have hparam : Stands r c.params[i] f.params[i] := h.params.get hi hi'
  have hlast := SetterCall.lastValue?_step (σ := f.Self) (length_params h) ⟨i, hi'⟩ calls
  simp only [passedOn, Arguments.data, List.map_ofFn, List.getElem_ofFn, Function.comp_apply,
    SetterCall.arguments]
  refine (congrArg₂ Option.getD hlast (zeroOf_ofText hparam)).trans ?_
  cases SetterCall.last? _ calls <;> rfl

/-- A builder that fits a function calls it with what its setters were given last. -/
theorem runOn?_eq (s : f.Self) (calls : List (SetterCall ε f.params)) :
    f.runOn? (layOut (c.synthesize r) deriveDebug) s calls = some (f.direct s calls) := by
  have hmem : (layOut (c.synthesize r) deriveDebug).terminalMethod ∈
      (layOut (c.synthesize r) deriveDebug).inherentImpl.methods :=
    List.mem_append_right _ List.mem_cons_self
  have hlast : (layOut (c.synthesize r) deriveDebug).method? f.terminal =
      some (layOut (c.synthesize r) deriveDebug).terminalMethod := by
    rw [← h.terminal]
    exact method?_eq h hmem
  have hmutable : f.isMutating = true →
      (layOut (c.synthesize r) deriveDebug).terminalMethod.params = [.receiver true] := by
    intro hmutating
    show [Formal.receiver ((c.synthesize r).receiver.map (·.mode) == some .refMut)] = _
    rw [h.mutating hmutating]
    rfl
  rw [runOn?, hlast]
  simp only [Option.bind_eq_bind, Option.bind_some, guard, if_pos hmutable, built?_eq h,
    run?_terminalMethod h.fields, arguments_eq h, answer?_eq h]
  rfl

end Run

end ModelFunction

end Buildwright.Gallery
