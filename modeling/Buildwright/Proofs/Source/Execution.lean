import Mathlib
import Buildwright.Proofs.Source.Distinct
import Buildwright.Source.Execution

/-!
# What an emitted builder calls

The constructor of an emitted builder stores zero values, and each setter stores its argument in a
field of its own. So whatever setters are called, how often and in which order, every field holds in
the end what its setter was given last, or its zero value, and the terminal method passes the fields
on in the order of the parameters. All of this is read off the bodies of the emitted functions.
-/

namespace Buildwright

namespace Source

variable {α : Type}

/-! ## Runs of setter calls -/

section Last

variable {κ : Type} [DecidableEq κ]

/-- The value that came last with a key. -/
def lastValue? (k : κ) (calls : List (κ × α)) : Option α := calls.reverse.lookup k

theorem lastValue?_concat (k j : κ) (value : α) (calls : List (κ × α)) :
    lastValue? k (calls ++ [(j, value)]) = if k = j then some value else lastValue? k calls := by
  rw [lastValue?, List.reverse_append, List.reverse_singleton, List.singleton_append,
    List.lookup_cons]
  by_cases hkj : k = j
  · simp [hkj]
  · rw [beq_false_of_ne hkj, if_neg hkj, lastValue?]

theorem lastValue?_map {name : κ → String} (hname : Function.Injective name) (k : κ)
    (calls : List (κ × α)) :
    lastValue? (name k) (calls.map fun call => (name call.1, call.2)) = lastValue? k calls := by
  induction calls using List.reverseRecOn with
  | nil => rfl
  | append_singleton calls last ih =>
    rw [List.map_append, List.map_singleton, lastValue?_concat, ih, ← Prod.mk.eta (p := last),
      lastValue?_concat]
    simp only [hname.eq_iff]

theorem lastValue?_eq_none {k : κ} {calls : List (κ × α)} (h : ∀ call ∈ calls, call.1 ≠ k) :
    lastValue? k calls = none := by
  rw [lastValue?, List.lookup_eq_none_iff]
  exact fun call hcall => bne_iff_ne.2 (h call (List.mem_reverse.1 hcall)).symm

end Last

namespace Store

theorem lookup_map_snd (f : String → α → α) (store : Store α) (name : String) :
    (store.map fun (key, old) => (key, f key old)).lookup name =
      (store.lookup name).map (f name) := by
  induction store with
  | nil => rfl
  | cons entry rest ih =>
    obtain ⟨key, old⟩ := entry
    rw [List.map_cons, List.lookup_cons, List.lookup_cons]
    by_cases hkey : name = key
    · simp [hkey]
    · simp [beq_false_of_ne hkey, ih]

theorem lookup_set_self (store : Store α) (field : String) (value : α) :
    (store.set field value).lookup field = (store.lookup field).map fun _ => value := by
  rw [set, lookup_map_snd fun key old => if key == field then value else old]
  simp

theorem lookup_set_of_ne {field name : String} (h : name ≠ field) (store : Store α) (value : α) :
    (store.set field value).lookup name = store.lookup name := by
  rw [set, lookup_map_snd fun key old => if key == field then value else old, beq_false_of_ne h]
  simp

theorem keys_set (store : Store α) (field : String) (value : α) :
    (store.set field value).map (·.1) = store.map (·.1) := by
  rw [set, List.map_map]
  rfl

theorem set?_eq_some {store : Store α} {field : String} (h : field ∈ store.map (·.1)) (value : α) :
    store.set? field value = some (store.set field value) := by
  cases hlookup : store.lookup field with
  | none =>
    obtain ⟨entry, hentry, rfl⟩ := List.mem_map.1 h
    exact absurd (List.lookup_eq_none_iff.1 hlookup entry hentry) (by simp)
  | some _ =>
    rw [set?, hlookup]
    rfl

def setAll (store : Store α) (values : List (String × α)) : Store α :=
  values.foldl (fun store (field, value) => store.set field value) store

/-- Every field holds what it was given last, and what it held before if it was given nothing. -/
theorem setAll_eq_map (store : Store α) (values : List (String × α)) :
    store.setAll values =
      store.map fun (field, old) => (field, (lastValue? field values).getD old) := by
  induction values using List.reverseRecOn with
  | nil => simp [setAll, lastValue?]
  | append_singleton values last ih =>
    obtain ⟨field, value⟩ := last
    rw [setAll, List.foldl_append]
    show (store.setAll values).set field value = _
    rw [ih, set, List.map_map]
    refine List.map_congr_left fun entry _ => ?_
    by_cases hfield : entry.1 = field <;> simp [lastValue?_concat, hfield]

theorem lookup_setAll (store : Store α) (values : List (String × α)) (name : String) :
    (store.setAll values).lookup name =
      (store.lookup name).map fun old => (lastValue? name values).getD old := by
  rw [setAll_eq_map, lookup_map_snd fun field old => (lastValue? field values).getD old]

end Store

theorem lookup_of_mem {β : Type} {entries : List (String × β)} (h : (entries.map (·.1)).Nodup)
    {name : String} {value : β} (hmem : (name, value) ∈ entries) :
    entries.lookup name = some value := by
  induction entries with
  | nil => cases hmem
  | cons entry rest ih =>
    obtain ⟨hentry, hrest⟩ := List.nodup_cons.1 h
    rcases List.mem_cons.1 hmem with rfl | hmem
    · exact List.lookup_cons_self
    · have hne : name ≠ entry.1 := by
        rintro rfl
        exact hentry (List.mem_map.2 ⟨_, hmem, rfl⟩)
      rw [List.lookup_cons, beq_false_of_ne hne]
      exact ih hrest hmem

theorem find?_of_nodup_map {β : Type} {name : β → String} {xs : List β}
    (h : (xs.map name).Nodup) {x : β} (hx : x ∈ xs) : xs.find? (name · == name x) = some x := by
  obtain ⟨y, hy⟩ : ∃ y, xs.find? (name · == name x) = some y :=
    Option.isSome_iff_exists.1 (List.find?_isSome.2 ⟨x, hx, beq_self_eq_true _⟩)
  have hname : name y = name x := by simpa using List.find?_some hy
  rw [hy, List.inj_on_of_nodup_map h (List.mem_of_find?_eq_some hy) hx hname]

theorem injective_of_nodup_map {β : Type} {name : β → String} {xs : List β}
    (h : (xs.map name).Nodup) : Function.Injective fun i : Fin xs.length => name xs[i] := by
  intro i j hij
  have hlength : (xs.map name).length = xs.length := List.length_map _
  have hi : i.val < (xs.map name).length := by omega
  have hj : j.val < (xs.map name).length := by omega
  have hnames : (xs.map name)[i.val] = (xs.map name)[j.val] := by
    rw [List.getElem_map, List.getElem_map]
    exact hij
  exact Fin.ext (h.getElem_inj_iff.1 hnames)

theorem mapM_eq_some {β γ : Type} {f : β → Option γ} {xs : List β} {ys : List γ}
    (h : List.Forall₂ (fun x y => f x = some y) xs ys) : xs.mapM f = some ys := by
  induction h with
  | nil => rfl
  | cons hhead _ ih =>
    rw [List.mapM_cons, hhead, ih]
    rfl

/-! ## What the emitted functions do -/

def Callee.on (instance_ : α) (args : List α) : Callee → Outcome α
  | .method _ name => .method instance_ name args
  | .function path => .function path args

theorem Function.run?_of_enter {meaning : String → String → α} {s : Struct} {f : Function}
    {self : Option (Store α)} {args : List α} {frame : Frame α}
    (h : f.enter? self args = some frame) :
    f.run? meaning s self args = frame.run? meaning s f.body := by
  rw [Function.run?, h]
  rfl

namespace BuilderCode

variable {meaning : String → String → α} {s : Struct} {c : BuilderCode}

/-- What all fields of the struct hold after `new`: the instance, the zero values, the marker. -/
def start (c : BuilderCode) (meaning : String → String → α) (receiver : α) : Store α :=
  c.receiver.toList.map (fun (name, _) => (name, receiver)) ++
    c.slots.map (fun slot => (slot.name, meaning slot.ty (zeroText slot.zero))) ++
    c.marker.toList.map fun (name, ty) => (name, meaning ty markerText)

theorem keys_start (receiver : α) :
    (c.start meaning receiver).map (·.1) = c.structFields.map (·.1) := by
  simp only [start, structFields, List.map_append, List.map_map]
  rfl

theorem keys_inits (c : BuilderCode) : c.inits.map (·.1) = c.structFields.map (·.1) := by
  simp only [inits, structFields, List.map_append, List.map_map]
  rfl

theorem run?_constructor (h : (c.structFields.map (·.1)).Nodup) (receiver : α) :
    c.constructor.run? meaning c.struct none (c.constructor.params.map fun _ => receiver) =
      some (.builder (c.start meaning receiver)) := by
  let frame : Frame α := ⟨none, false, c.receiver.toList.map fun (name, _) => (name, receiver)⟩
  have henter : c.constructor.enter? none (c.constructor.params.map fun _ => receiver) =
      some frame := by
    simp only [Function.enter?, constructor, frame]
    cases c.receiver <;> rfl
  have hnames : c.inits.map (·.1) = c.struct.fields.map (·.1) := keys_inits c
  have hnodup : (c.inits.map (·.1)).Nodup := keys_inits c ▸ h
  have hstore : c.struct.fields.mapM (frame.init? meaning c.inits) =
      some (c.start meaning receiver) := by
    refine mapM_eq_some (List.rel_append (List.rel_append ?receiver ?slots) ?marker)
    case receiver =>
      rw [List.forall₂_map_right_iff, List.forall₂_same]
      rintro ⟨name, ty⟩ hfield
      have hinit : c.inits.lookup name = some none :=
        lookup_of_mem hnodup (List.mem_append_left _ (List.mem_append_left _
          (List.mem_map_of_mem hfield)))
      have hlocal : frame.locals.lookup name = some receiver := by
        rw [Option.mem_toList] at hfield
        simp only [frame, Option.mem_def.1 hfield]
        exact List.lookup_cons_self
      rw [Frame.init?, hinit, hlocal]
      rfl
    case slots =>
      rw [List.forall₂_map_left_iff, List.forall₂_map_right_iff, List.forall₂_same]
      intro slot hslot
      have hinit : c.inits.lookup slot.name = some (some (zeroText slot.zero)) :=
        lookup_of_mem hnodup (List.mem_append_left _ (List.mem_append_right _
          (List.mem_map_of_mem hslot)))
      rw [Frame.init?, hinit]
    case marker =>
      rw [List.forall₂_map_right_iff, List.forall₂_same]
      rintro ⟨name, ty⟩ hfield
      have hinit : c.inits.lookup name = some (some markerText) :=
        lookup_of_mem hnodup (List.mem_append_right _ (List.mem_map_of_mem hfield))
      rw [Frame.init?, hinit]
  rw [Function.run?_of_enter henter]
  show frame.run? meaning c.struct [.construct c.inits] = _
  rw [Frame.run?, hstore, guard, if_pos hnames]
  rfl

theorem run?_setter (code : SetterCode) (store : Store α) (value : α) :
    (setter code).run? meaning s (some store) [value] =
      (store.set? code.field value).map .builder := by
  let frame : Frame α := ⟨some store, true, [(code.field, value)]⟩
  have henter : (setter code).enter? (some store) [value] = some frame := rfl
  have hlocal : frame.locals.lookup code.field = some value := List.lookup_cons_self
  rw [Function.run?_of_enter henter]
  show frame.run? meaning s [.assign code.field code.field, .self] = _
  rw [Frame.run?, hlocal]
  show (store.set? code.field value).bind _ = _
  cases store.set? code.field value <;> rfl

theorem run?_terminal {store : Store α} {args : List α}
    (hargs : c.terminal.args.mapM (fun name => store.lookup name) = some args) :
    c.terminalMethod.run? meaning s (some store) [] = c.terminal.callee.call? store args := by
  show (c.terminal.args.mapM fun name => store.lookup name).bind _ = _
  rw [hargs]
  rfl

theorem chain?_setters {calls : List (SetterCode × α)} {store : Store α}
    (h : ∀ call ∈ calls, call.1.field ∈ store.map (·.1)) :
    chain? meaning s store (calls.map fun call => (setter call.1, call.2)) =
      some (store.setAll (calls.map fun call => (call.1.field, call.2))) := by
  induction calls generalizing store with
  | nil => rfl
  | cons call rest ih =>
    obtain ⟨hcall, hrest⟩ := List.forall_mem_cons.1 h
    have hrun : (setter call.1).run? meaning s (some store) [call.2] =
        some (.builder (store.set call.1.field call.2)) := by
      rw [run?_setter, Store.set?_eq_some hcall, Option.map_some]
    have hkeys : ∀ call' ∈ rest,
        call'.1.field ∈ (store.set call.1.field call.2).map (·.1) := by
      rwa [Store.keys_set]
    rw [List.map_cons, chain?, hrun]
    exact ih hkeys

end BuilderCode

/-! ## The layout of a callable's builder -/

def slotOf (r : Resolution) (p : Param) : Slot :=
  ⟨fieldName p.name, (r.substitute p.ty).toString, .ofType (r.substitute p.ty)⟩

def setterOf (r : Resolution) (p : Param) : SetterCode :=
  ⟨methodName (setterName p.name), fieldName p.name, (r.substitute p.ty).toString⟩

/-- What a written zero value stands for in the field of a parameter. -/
def zeroOf (meaning : String → String → α) (r : Resolution) (p : Param) : α :=
  meaning (r.substitute p.ty).toString (zeroText (.ofType (r.substitute p.ty)))

theorem setterOf_field (r : Resolution) (p : Param) : (setterOf r p).field = fieldName p.name := rfl

theorem field?_of_mem {b : Builder} (h : (b.fields.map (·.name)).Nodup) {f : Field}
    (hf : f ∈ b.fields) : b.field? f.name = some f :=
  find?_of_nodup_map h hf

variable {c : Callable} {r : Resolution} {deriveDebug : Bool}

theorem slotNames_synthesize :
    slotNames (c.synthesize r) = c.params.map fun p => fieldName p.name := by
  show ((c.params.map _).map _ : List String) = _
  rw [List.map_map]
  rfl

theorem slots_synthesize :
    (layOut (c.synthesize r) deriveDebug).slots = c.params.map (slotOf r) := by
  show ((c.params.map _).map _ : List Slot) = _
  rw [List.map_map]
  rfl

theorem arguments_synthesize :
    (layOut (c.synthesize r) deriveDebug).terminal.args =
      c.params.map fun p => fieldName p.name := by
  show (((c.params.map _).map _).map fieldName : List String) = _
  rw [List.map_map, List.map_map]
  rfl

theorem not_mem_slotNames_of_receiver {b : Builder} {field : String × String}
    (h : field ∈ (layOut b deriveDebug).receiver) : field.1 ∉ slotNames b := by
  obtain ⟨s, _, rfl⟩ := Option.map_eq_some_iff.1 h
  exact unusedName_not_mem _ _

theorem setters_synthesize (h : (c.params.map (·.name)).Nodup) :
    (layOut (c.synthesize r) deriveDebug).setters = c.params.map (setterOf r) := by
  have hnames : ((c.synthesize r).fields.map (·.name)).Nodup := by
    show ((c.params.map _).map _ : List String).Nodup
    rwa [List.map_map]
  show ((c.synthesize r).fields.map _).filterMap (setterCode? (c.synthesize r)) = _
  rw [List.filterMap_map]
  have hcode : ∀ f ∈ (c.synthesize r).fields,
      setterCode? (c.synthesize r) ⟨setterName f.name, f.name⟩ =
        some ⟨methodName (setterName f.name), fieldName f.name, f.ty.toString⟩ := by
    intro f hf
    rw [setterCode?, field?_of_mem hnames hf]
    rfl
  rw [Function.comp_def, List.filterMap_congr hcode, List.filterMap_eq_map']
  show ((c.params.map _).map _ : List SetterCode) = _
  rw [List.map_map]
  rfl

theorem call?_calleeOf {store : Store α} {receiver : α} {args : List α}
    (h : ∀ field ∈ (layOut (c.synthesize r) deriveDebug).receiver,
      store.lookup field.1 = some receiver) :
    (calleeOf (c.synthesize r)).call? store args =
      some ((calleeOf (c.synthesize r)).on receiver args) := by
  cases hreceiver : c.kind.receiver? with
  | none =>
    have hcallee : ∃ path, calleeOf (c.synthesize r) = .function path := by
      simp [calleeOf, Callable.synthesize, CallableKind.isInstance, hreceiver]
    obtain ⟨path, hpath⟩ := hcallee
    rw [hpath]
    rfl
  | some mode =>
    have hcallee : calleeOf (c.synthesize r) =
        .method (receiverName (c.synthesize r)) c.name := by
      simp [calleeOf, Callable.synthesize, CallableKind.isInstance, hreceiver]
    have hfield : (receiverName (c.synthesize r), (r.substitute c.owner.selfTy).toString) ∈
        (layOut (c.synthesize r) deriveDebug).receiver := by
      simp [layOut, Callable.synthesize, hreceiver]
    rw [hcallee, Callee.call?, h _ hfield]
    rfl

/-! ## Runs of a callable's builder

The argument fields have distinct names. The setters then have distinct parameters and fields of
their own, and so has the instance, so that every field of the struct can be looked up.
-/

/-- The emitted setter of the parameter at a place. -/
def setterAt (c : Callable) (r : Resolution) (i : Fin c.params.length) : Function :=
  BuilderCode.setter (setterOf r c.params[i])

theorem name_setterAt (i : Fin c.params.length) :
    (setterAt c r i).name = methodName (setterName c.params[i].name) := by
  rw [setterAt, BuilderCode.setter, setterOf]

theorem params_setterAt (i : Fin c.params.length) :
    (setterAt c r i).params = [.receiver true,
      .named (fieldName c.params[i].name) (r.substitute c.params[i].ty).toString] := by
  rw [setterAt, BuilderCode.setter, setterOf]

/-- The lines of the emitted bodies. The constructor names every field of the struct, a setter is one
assignment, and the terminal method is one call. -/
structure Written (c : Callable) (r : Resolution) (code : BuilderCode) (new last : Function)
    (setter : Fin c.params.length → Function) : Prop where
  new : new.lines = "Self \x7b" ::
    (code.receiver.toList.map (fun field => "    " ++ field.1 ++ ",") ++
      c.params.map (fun p => "    " ++ fieldName p.name ++ ": " ++
        zeroText (.ofType (r.substitute p.ty)) ++ ",") ++
      code.marker.toList.map fun field => "    " ++ field.1 ++ ": " ++ markerText ++ ",") ++
    ["\x7d"]
  setter : ∀ i, (setter i).lines =
    ["self." ++ fieldName c.params[i].name ++ " = " ++ fieldName c.params[i].name ++ ";", "self"]
  method : ∀ field name, code.terminal.callee = .method field name → last.lines =
    ["self." ++ field ++ "." ++ name ++
      "(" ++ Text.joined ", " (c.params.map fun p => "self." ++ fieldName p.name) ++ ")"]
  function : ∀ path, code.terminal.callee = .function path → last.lines =
    [path ++ "(" ++ Text.joined ", " (c.params.map fun p => "self." ++ fieldName p.name) ++ ")"]

theorem lines_terminalMethod :
    (layOut (c.synthesize r) deriveDebug).terminalMethod.lines =
      [(layOut (c.synthesize r) deriveDebug).terminal.callee.text ++
        "(" ++ Text.joined ", " (c.params.map fun p => "self." ++ fieldName p.name) ++ ")"] := by
  show [_ ++ "(" ++ Text.joined ", "
    ((layOut (c.synthesize r) deriveDebug).terminal.args.map fun a => "self." ++ a) ++ ")"] = _
  rw [arguments_synthesize, List.map_map]
  rfl

theorem written (c : Callable) (r : Resolution) (deriveDebug : Bool) :
    Written c r (layOut (c.synthesize r) deriveDebug)
      (layOut (c.synthesize r) deriveDebug).constructor
      (layOut (c.synthesize r) deriveDebug).terminalMethod (setterAt c r) where
  new := by
    have hinits : (layOut (c.synthesize r) deriveDebug).inits.map Statement.fieldText =
        (layOut (c.synthesize r) deriveDebug).receiver.toList.map
            (fun field => "    " ++ field.1 ++ ",") ++
          c.params.map (fun p => "    " ++ fieldName p.name ++ ": " ++
            zeroText (.ofType (r.substitute p.ty)) ++ ",") ++
          (layOut (c.synthesize r) deriveDebug).marker.toList.map
            fun field => "    " ++ field.1 ++ ": " ++ markerText ++ "," := by
      rw [BuilderCode.inits, slots_synthesize, List.map_append, List.map_append, List.map_map,
        List.map_map, List.map_map, List.map_map]
      rfl
    rw [← hinits]
    exact List.append_nil _
  setter := fun _ => rfl
  method := fun field name hcallee => by rw [lines_terminalMethod, hcallee, Callee.text]
  function := fun path hcallee => by rw [lines_terminalMethod, hcallee, Callee.text]

def writes (c : Callable) (calls : List (Fin c.params.length × α)) : List (String × α) :=
  calls.map fun call => (fieldName c.params[call.1].name, call.2)

theorem name_mem_of_mem_writes {calls : List (Fin c.params.length × α)} {w : String × α}
    (h : w ∈ writes c calls) : w.1 ∈ c.params.map fun p => fieldName p.name := by
  obtain ⟨call, -, rfl⟩ := List.mem_map.1 h
  exact List.mem_map_of_mem (List.getElem_mem _)

/-- What the fields hold after calls of setters on a new builder. -/
def heldAfter (c : Callable) (r : Resolution) (deriveDebug : Bool)
    (meaning : String → String → α) (receiver : α) (calls : List (Fin c.params.length × α)) :
    Store α :=
  ((layOut (c.synthesize r) deriveDebug).start meaning receiver).setAll (writes c calls)

/-- For each parameter what its setter was given last, or else its zero value. -/
def passedOn (c : Callable) (r : Resolution) (meaning : String → String → α)
    (calls : List (Fin c.params.length × α)) : List α :=
  List.ofFn fun i => (lastValue? i calls).getD (zeroOf meaning r c.params[i])

section Run

variable {meaning : String → String → α} {receiver : α}
variable (h : (c.params.map fun p => fieldName p.name).Nodup)
include h

theorem setters_of_nodup_fields :
    (layOut (c.synthesize r) deriveDebug).setters = c.params.map (setterOf r) := by
  refine setters_synthesize (List.Nodup.of_map fieldName ?_)
  rwa [List.map_map]

theorem methods_synthesize :
    (layOut (c.synthesize r) deriveDebug).inherentImpl.methods =
      (layOut (c.synthesize r) deriveDebug).constructor ::
        (List.ofFn (setterAt c r) ++ [(layOut (c.synthesize r) deriveDebug).terminalMethod]) := by
  have hofFn : List.ofFn (setterAt c r) = (c.params.map (setterOf r)).map BuilderCode.setter := by
    rw [List.map_map, ← List.ofFn_getElem_eq_map]
    rfl
  rw [hofFn, ← setters_of_nodup_fields h]
  rfl

theorem nodup_structFields :
    ((layOut (c.synthesize r) deriveDebug).structFields.map (·.1)).Nodup := by
  rwa [nodup_structFields_iff, slotNames_synthesize]

theorem nodup_keys_start :
    (((layOut (c.synthesize r) deriveDebug).start meaning receiver).map (·.1)).Nodup := by
  rw [BuilderCode.keys_start]
  exact nodup_structFields h

theorem lookup_start_field {p : Param} (hp : p ∈ c.params) :
    ((layOut (c.synthesize r) deriveDebug).start meaning receiver).lookup (fieldName p.name) =
      some (zeroOf meaning r p) := by
  refine lookup_of_mem (nodup_keys_start h)
    (List.mem_append_left _ (List.mem_append_right _ ?_))
  rw [slots_synthesize]
  exact List.mem_map_of_mem (List.mem_map_of_mem hp)

theorem lookup_start_receiver {field : String × String}
    (hfield : field ∈ (layOut (c.synthesize r) deriveDebug).receiver) :
    ((layOut (c.synthesize r) deriveDebug).start meaning receiver).lookup field.1 =
      some receiver := by
  refine lookup_of_mem (nodup_keys_start h)
    (List.mem_append_left _ (List.mem_append_left _ ?_))
  exact List.mem_map_of_mem (f := fun field : String × String => (field.1, receiver))
    (Option.mem_toList.2 hfield)

variable {calls : List (Fin c.params.length × α)}

theorem lastValue?_writes (i : Fin c.params.length) :
    lastValue? (fieldName c.params[i].name) (writes c calls) = lastValue? i calls :=
  lastValue?_map (injective_of_nodup_map h) i calls

/-- An argument field holds what its setter was given last, or its zero value. -/
theorem lookup_heldAfter_field (i : Fin c.params.length) :
    (heldAfter c r deriveDebug meaning receiver calls).lookup (fieldName c.params[i].name) =
      some ((lastValue? i calls).getD (zeroOf meaning r c.params[i])) := by
  rw [heldAfter, Store.lookup_setAll, lastValue?_writes h]
  exact congrArg _ (lookup_start_field h (List.getElem_mem i.isLt))

theorem lookup_heldAfter_receiver {field : String × String}
    (hfield : field ∈ (layOut (c.synthesize r) deriveDebug).receiver) :
    (heldAfter c r deriveDebug meaning receiver calls).lookup field.1 = some receiver := by
  have hother : ∀ w ∈ writes c calls, w.1 ≠ field.1 := by
    intro w hw heq
    refine not_mem_slotNames_of_receiver hfield ?_
    rw [slotNames_synthesize, ← heq]
    exact name_mem_of_mem_writes hw
  rw [heldAfter, Store.lookup_setAll, lookup_start_receiver h hfield, lastValue?_eq_none hother]
  rfl

theorem heldAfter_congr {calls' : List (Fin c.params.length × α)}
    (hlast : ∀ i, lastValue? i calls = lastValue? i calls') :
    heldAfter c r deriveDebug meaning receiver calls' =
      heldAfter c r deriveDebug meaning receiver calls := by
  have hwrites : ∀ name, lastValue? name (writes c calls') = lastValue? name (writes c calls) := by
    intro name
    by_cases hname : ∃ i : Fin c.params.length, fieldName c.params[i].name = name
    · obtain ⟨i, rfl⟩ := hname
      rw [lastValue?_writes h, lastValue?_writes h, hlast]
    · have hnone (calls : List (Fin c.params.length × α)) :
          lastValue? name (writes c calls) = none := by
        refine lastValue?_eq_none fun w hw heq => hname ?_
        obtain ⟨call, -, rfl⟩ := List.mem_map.1 hw
        exact ⟨call.1, heq⟩
      rw [hnone, hnone]
  simp only [heldAfter, Store.setAll_eq_map, hwrites]

theorem built?_eq_heldAfter :
    built? meaning (layOut (c.synthesize r) deriveDebug).struct
        (layOut (c.synthesize r) deriveDebug).constructor
        ((layOut (c.synthesize r) deriveDebug).constructor.params.map fun _ => receiver)
        (calls.map fun call => (setterAt c r call.1, call.2)) =
      some (heldAfter c r deriveDebug meaning receiver calls) := by
  have hfields : ∀ call ∈ calls.map fun call => (setterOf r c.params[call.1], call.2),
      call.1.field ∈
        ((layOut (c.synthesize r) deriveDebug).start meaning receiver).map (·.1) := by
    intro _ hcall
    obtain ⟨call, -, rfl⟩ := List.mem_map.1 hcall
    rw [BuilderCode.keys_start, structFields_layOut, slotNames_synthesize]
    exact List.mem_append_left _ (List.mem_append_right _
      (List.mem_map_of_mem (List.getElem_mem _)))
  have hsetters : (calls.map fun call => (setterAt c r call.1, call.2)) =
      (calls.map fun call => (setterOf r c.params[call.1], call.2)).map fun call =>
        (BuilderCode.setter call.1, call.2) := by
    rw [List.map_map]
    rfl
  rw [built?, BuilderCode.run?_constructor (nodup_structFields h), hsetters]
  refine (BuilderCode.chain?_setters hfields).trans ?_
  rw [List.map_map]
  rfl

theorem run?_setterAt (i : Fin c.params.length) (value : α) :
    ∃ store',
      (setterAt c r i).run? meaning (layOut (c.synthesize r) deriveDebug).struct
          (some (heldAfter c r deriveDebug meaning receiver calls)) [value] =
        some (.builder store') ∧
      store'.lookup (fieldName c.params[i].name) = some value ∧
      ∀ name ≠ fieldName c.params[i].name,
        store'.lookup name = (heldAfter c r deriveDebug meaning receiver calls).lookup name := by
  have hlookup : (heldAfter c r deriveDebug meaning receiver calls).lookup
      (fieldName c.params[i].name) = some _ := lookup_heldAfter_field h i
  refine ⟨_, ?_, ?_, fun name hname => Store.lookup_set_of_ne hname _ value⟩
  · rw [setterAt, BuilderCode.run?_setter, Store.set?, setterOf_field, hlookup]
    rfl
  · rw [Store.lookup_set_self, hlookup]
    rfl

/-- The terminal method makes its call with one field for each parameter, in order. -/
theorem run?_terminalMethod :
    (layOut (c.synthesize r) deriveDebug).terminalMethod.run? meaning
        (layOut (c.synthesize r) deriveDebug).struct
        (some (heldAfter c r deriveDebug meaning receiver calls)) [] =
      some ((calleeOf (c.synthesize r)).on receiver (passedOn c r meaning calls)) := by
  have hargs : (layOut (c.synthesize r) deriveDebug).terminal.args.mapM
      (fun name => (heldAfter c r deriveDebug meaning receiver calls).lookup name) =
      some (passedOn c r meaning calls) := by
    rw [arguments_synthesize, List.mapM_map, passedOn]
    refine mapM_eq_some (List.forall₂_iff_get.2 ⟨List.length_ofFn.symm, fun i hi _ => ?_⟩)
    rw [List.get_ofFn]
    exact lookup_heldAfter_field h ⟨i, hi⟩
  rw [BuilderCode.run?_terminal hargs]
  exact call?_calleeOf fun field hfield => lookup_heldAfter_receiver h hfield

end Run

end Source

namespace Callable

open Source

/-- A builder whose fields have distinct names has, between its constructor and its terminal method,
one setter for each parameter, which takes the parameter's type under the builder's names. Their
bodies are written as a struct with all fields, as assignments and as a call. Whatever setters are
called on a new builder, the terminal method makes one call, with an argument for each
parameter, in order: what its setter was given last, or the zero value of its field. The instance
stays what it was, a call of a setter changes the setter's field and no other one, and two sequences
of calls that give every setter the same last value leave the same builder behind. (Where the fields
are distinct, so are the parameters' names.) -/
theorem generate_passes_last_values {c : Callable} {b : Builder} (hgenerate : c.generate = .ok b)
    {code : BuilderCode} {deriveDebug : Bool} (hcode : code = layOut b deriveDebug)
    (hfields : (code.struct.fields.map (·.1)).Nodup) :
    ∃ (r : Resolution) (new last : Function) (setter : Fin c.params.length → Function),
      c.resolve = .ok r ∧
      code.inherentImpl.methods = new :: (List.ofFn setter ++ [last]) ∧
      (∀ i, (setter i).params = [.receiver true,
        .named (fieldName c.params[i].name) (r.substitute c.params[i].ty).toString]) ∧
      Written c r code new last setter ∧
      ∀ {α : Type} (meaning : String → String → α) (receiver : α)
        (calls : List (Fin c.params.length × α)),
        ∃ store,
          built? meaning code.struct new (new.params.map fun _ => receiver)
              (calls.map fun call => (setter call.1, call.2)) = some store ∧
          last.run? meaning code.struct (some store) [] =
            some ((calleeOf b).on receiver (List.ofFn fun i =>
              (lastValue? i calls).getD (zeroOf meaning r c.params[i]))) ∧
          (∀ field ∈ code.receiver, store.lookup field.1 = some receiver) ∧
          (∀ i value, ∃ store',
            (setter i).run? meaning code.struct (some store) [value] = some (.builder store') ∧
              store'.lookup (fieldName c.params[i].name) = some value ∧
              ∀ name ≠ fieldName c.params[i].name, store'.lookup name = store.lookup name) ∧
          ∀ calls', (∀ i, lastValue? i calls = lastValue? i calls') →
            built? meaning code.struct new (new.params.map fun _ => receiver)
              (calls'.map fun call => (setter call.1, call.2)) = some store := by
  obtain ⟨r, hres, rfl⟩ := generate_eq_ok.1 hgenerate
  subst hcode
  have hnames : (c.params.map fun p => fieldName p.name).Nodup := by
    rw [← slotNames_synthesize, ← nodup_structFields_iff _ deriveDebug]
    exact hfields
  refine ⟨r, (layOut (c.synthesize r) deriveDebug).constructor,
    (layOut (c.synthesize r) deriveDebug).terminalMethod, setterAt c r, hres,
    methods_synthesize hnames, params_setterAt, written c r deriveDebug,
    fun {α} meaning receiver calls => ?_⟩
  refine ⟨_, built?_eq_heldAfter hnames, run?_terminalMethod hnames,
    fun field hfield => lookup_heldAfter_receiver hnames hfield, run?_setterAt hnames,
    fun calls' hlast => ?order⟩
  case order =>
    rw [built?_eq_heldAfter hnames, heldAfter_congr hnames hlast]

/-- The first argument is set twice, the second one never. -/
theorem fillBuilder_call :
    Manifest.fillDeclaration.callable.generate = .ok Manifest.fillBuilder ∧
      ((layOut Manifest.fillBuilder false).struct.fields.map (·.1)).Nodup ∧
      ∃ new last : Function, ∃ setter : Fin 3 → Function,
        (layOut Manifest.fillBuilder false).inherentImpl.methods =
            new :: (List.ofFn setter ++ [last]) ∧
          ∃ store,
            built? (fun _ _ => 0) (layOut Manifest.fillBuilder false).struct new
                (new.params.map fun _ => 100) [(setter 0, 1), (setter 2, 5), (setter 0, 7)] =
              some store ∧
            last.run? (fun _ _ => 0) (layOut Manifest.fillBuilder false).struct (some store) [] =
              some (.method 100 "fill" [7, 0, 5]) := by
  have hfields : ((layOut Manifest.fillBuilder false).struct.fields.map (·.1)).Nodup := by decide
  obtain ⟨_, new, last, setter, _, hmethods, _, _, hruns⟩ :=
    generate_passes_last_values Manifest.generate_fillDeclaration rfl hfields
  obtain ⟨store, hbuilt, hlast, _⟩ :=
    hruns (fun _ _ => 0) 100 ([(0, 1), (2, 5), (0, 7)] : List (Fin 3 × Nat))
  exact ⟨Manifest.generate_fillDeclaration, hfields, new, last, setter, hmethods, store, hbuilt,
    hlast⟩

end Callable

end Buildwright
