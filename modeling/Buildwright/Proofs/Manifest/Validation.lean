import Buildwright.Manifest.Validation
import Buildwright.Proofs.Requirement
import Buildwright.Proofs.Text.Snake

/-!
# Validation decides validity

A manifest is valid if its types, names and imports are what the emitted code can take. Validation
passes for exactly these manifests, and for any other reports the first thing that is wrong.
-/

namespace Buildwright

namespace Manifest

/-- A letter or underscore, then letters, digits and underscores, all of them ASCII; neither the lone
underscore nor a keyword. -/
structure Usable (name : String) : Prop where
  chars : ∃ first rest, name.toList = first :: rest ∧
    (first.isAlpha = true ∨ first = '_') ∧ ∀ c ∈ rest, c.isAlphanum = true ∨ c = '_'
  notLone : name ≠ "_"
  notKeyword : name ∉ keywords

theorem usable_iff {name : String} : Usable name ↔ isName name = true := by
  rw [Text.isName_iff]
  constructor
  · rintro ⟨⟨first, rest, hchars, hfirst, hrest⟩, hlone, hkeyword⟩
    refine ⟨?_, hlone, first, rest, hchars, ?_, fun c hc => ?_⟩
    · simpa [isKeyword] using hkeyword
    · simpa [isNameStart] using hfirst
    · simpa [isNameChar] using hrest c hc
  · rintro ⟨hkeyword, hlone, first, rest, hchars, hfirst, hrest⟩
    refine ⟨⟨first, rest, hchars, ?_, fun c hc => ?_⟩, hlone, ?_⟩
    · simpa [isNameStart] using hfirst
    · simpa [isNameChar] using hrest c hc
    · simpa [isKeyword] using hkeyword

end Manifest

/-! ## Valid manifests -/

structure FunctionDecl.Valid (block : ImplBlock) (f : FunctionDecl) : Prop where
  name : Manifest.Usable f.name
  free : ¬ (f.isConstructor = true ∧ f.receiver.isSome = true)
  generic : ∀ p ∈ f.generics, Manifest.Usable p.name
  genericNodup : (f.generics.map (·.name)).Nodup
  unshadowed : ∀ p ∈ f.generics, p.name ∉ block.generics.map (·.name)
  arg : ∀ a ∈ f.args, Manifest.Usable a.name
  argNodup : (f.args.map (·.name)).Nodup
  className : ∀ a ∈ f.annotation, ∀ name ∈ a.className, Manifest.Usable name
  methodName : ∀ a ∈ f.annotation, ∀ name ∈ a.methodName, Manifest.Usable name

structure ImplBlock.Valid (block : ImplBlock) : Prop where
  selfTy : block.selfTy.isPath = true
  generic : ∀ p ∈ block.generics, Manifest.Usable p.name
  genericNodup : (block.generics.map (·.name)).Nodup
  function : ∀ f ∈ block.functions, f.Valid block

structure Manifest.Valid (m : Manifest) : Prop where
  uses : ∀ u ∈ m.generator.uses, ∃ c ∈ u.toList, Text.isBlank c = false
  block : ∀ block ∈ m.impls, block.Valid

/-! ## What is checked, in order -/

namespace Manifest

def inTurn (each : List String → String → List (Requirement ManifestFault)) :
    List String → List String → List (Requirement ManifestFault)
  | _, [] => []
  | seen, name :: rest => each seen name ++ inTurn each (name :: seen) rest

namespace Context

variable (c : Context)

def nameFault (name kind : String) : ManifestFault :=
  if name ∈ keywords then .reservedKeyword name (c.describe kind) (c.place name)
  else
    .invalidIdentifier name (c.describe kind) (((nameFault? name).map NameFault.reason).getD "")
      (c.place name)

def usable (name kind : String) : Requirement ManifestFault :=
  ⟨Usable name, c.nameFault name kind⟩

def useDemands (uses : List String) : List (Requirement ManifestFault) :=
  uses.zipIdx.map fun (u, i) =>
    ⟨∃ ch ∈ u.toList, Text.isBlank ch = false, c.invalid s!"generator.uses[{i}] is empty" u⟩

/-- A name is usable and differs from those before it. -/
def nameDemands (kind : String) (repeated : String → ManifestFault) (seen : List String)
    (name : String) : List (Requirement ManifestFault) :=
  [c.usable name kind, ⟨name ∉ seen, repeated name⟩]

/-- A function's generic parameter, besides, hides none of the block. -/
def genericDemands (block : ImplBlock) (function : String) (seen : List String) (name : String) :
    List (Requirement ManifestFault) :=
  c.nameDemands "generic parameter"
    (fun name =>
      c.invalid s!"generic parameter '{name}' is declared twice on '{function}'" name) seen name ++
  [⟨name ∉ block.generics.map (·.name),
    c.shadowedGeneric name function block.selfTy.simpleName⟩]

def annotationDemands (a : Annotation) : List (Requirement ManifestFault) :=
  a.className.toList.map (c.usable · "builder type") ++
    a.methodName.toList.map (c.usable · "terminal method")

/-- The demands on a function: its name is checked where the block is, the rest inside it. -/
def functionDemands (block : ImplBlock) (f : FunctionDecl) : List (Requirement ManifestFault) :=
  let inner := c.push f.name
  [c.usable f.name "function",
    ⟨¬ (f.isConstructor = true ∧ f.receiver.isSome = true),
      inner.invalid s!"constructor '{inner.pathText}' cannot take a receiver" f.name⟩] ++
  inTurn (inner.genericDemands block inner.pathText) [] (f.generics.map (·.name)) ++
  inTurn (inner.nameDemands "argument" (inner.duplicateArgument · inner.pathText)) []
    (f.args.map (·.name)) ++
  f.annotation.toList.flatMap inner.annotationDemands

def blockDemands (block : ImplBlock) : List (Requirement ManifestFault) :=
  let inner := c.push block.selfTy.simpleName
  let selfTy := TypeExpr.toString block.selfTy
  [⟨block.selfTy.isPath = true,
      c.invalid s!"impl self type must be a named type, found '{selfTy}'" selfTy⟩] ++
  inTurn (inner.nameDemands "generic parameter" fun name =>
      inner.invalid s!"generic parameter '{name}' is declared twice on impl {selfTy}" name) []
    (block.generics.map (·.name)) ++
  block.functions.flatMap (inner.functionDemands block)

end Context

/-- All that a manifest must meet, in its order. -/
def demands (source : String) (m : Manifest) : List (Requirement ManifestFault) :=
  let c : Context := ⟨source, []⟩
  c.useDemands m.generator.uses ++ m.impls.flatMap c.blockDemands

/-! ## The checks follow the demands -/

section Checks

variable (c : Context)

theorem nameFault?_eq_keyword {name : String} :
    nameFault? name = some .keyword ↔ name ∈ keywords := by
  have hkeyword : isKeyword name = true ↔ name ∈ keywords := List.contains_iff_mem
  rw [← hkeyword, nameFault?]
  by_cases hname : isKeyword name = true
  · simp [hname]
  · rw [if_neg hname]
    refine iff_of_false (fun h => ?_) hname
    split at h
    · cases h
    · split at h
      · cases h
      · split at h
        · cases h
        · split at h <;> cases h

theorem checks_checkName (name kind : String) :
    Checks [c.usable name kind] (c.checkName name kind) := by
  unfold Context.checkName
  cases hfault : nameFault? name with
  | none =>
    refine .met (usable_iff.2 ?_) .passed
    rw [isName, hfault]
    rfl
  | some fault =>
    have hunusable : ¬ Usable name := by
      rw [usable_iff, isName, hfault]
      exact Bool.false_ne_true
    by_cases hkeyword : fault = .keyword
    · subst hkeyword
      have hreport : (c.usable name kind).fault =
          .reservedKeyword name (c.describe kind) (c.place name) :=
        if_pos (nameFault?_eq_keyword.1 hfault)
      rw [← hreport]
      exact .unmet hunusable
    · have hplain : name ∉ keywords := by
        rw [← nameFault?_eq_keyword, hfault]
        exact fun h => hkeyword (Option.some.inj h)
      have hreport : (c.usable name kind).fault =
          .invalidIdentifier name (c.describe kind) fault.reason (c.place name) := by
        show c.nameFault name kind = _
        rw [Context.nameFault, if_neg hplain, hfault]
        rfl
      have hrun : Checks [c.usable name kind] (.error (c.usable name kind).fault) :=
        .unmet hunusable
      rw [hreport] at hrun
      cases fault with
      | keyword => exact absurd rfl hkeyword
      | _ => exact hrun

/-- The check of one name of several. -/
def checkNew (check : String → Except ManifestFault Unit) (repeated : String → ManifestFault)
    (seen : List String) (name : String) : Except ManifestFault Unit := do
  check name
  if name ∈ seen then
    throw (repeated name)

variable {check : String → Except ManifestFault Unit} {repeated : String → ManifestFault}
  {each : List String → String → List (Requirement ManifestFault)}

theorem checkDistinct_cons (seen : List String) (name : String) (rest : List String) :
    checkDistinct check repeated seen (name :: rest) =
      checkNew check repeated seen name >>= fun _ =>
        checkDistinct check repeated (name :: seen) rest := by
  rw [checkDistinct, checkNew]
  cases check name with
  | error e => rfl
  | ok _ =>
    by_cases hseen : name ∈ seen
    · simp [hseen, bind, Except.bind]
    · simp [hseen, bind, Except.bind, pure, Except.pure]

/-- Names are checked one by one. What is known of the names before it helps to check a name. -/
theorem checks_checkDistinct (Good : List String → Prop)
    (hstep : ∀ seen name, Good seen → Checks (each seen name) (checkNew check repeated seen name))
    (hgood : ∀ seen name, Good seen → (∀ r ∈ each seen name, r.Met) → Good (name :: seen))
    {seen : List String} (hseen : Good seen) (names : List String) :
    Checks (inTurn each seen names) (checkDistinct check repeated seen names) := by
  induction names generalizing seen with
  | nil => exact .passed
  | cons name rest ih =>
    rw [checkDistinct_cons]
    exact (hstep seen name hseen).bind fun hmet => ih (hgood seen name hseen hmet)

theorem checks_useDemands (uses : List String) :
    Checks (c.useDemands uses) (checkUses c 0 uses) := by
  unfold Context.useDemands
  generalize 0 = i
  induction uses generalizing i with
  | nil => exact .passed
  | cons u rest ih =>
    rw [List.zipIdx_cons, List.map_cons, checkUses]
    refine .guard ?_ fun _ => ih (i + 1)
    rw [Text.isAllBlank_iff]
    simp

theorem checks_names (kind : String) (repeated : String → ManifestFault) (names : List String) :
    Checks (inTurn (c.nameDemands kind repeated) [] names)
      (checkDistinct (c.checkName · kind) repeated [] names) := by
  refine checks_checkDistinct (fun _ => True) (fun seen name _ => ?_)
    (fun _ _ _ _ => trivial) trivial names
  exact (checks_checkName c name kind).bind fun _ => .guard not_not.symm fun _ => .passed

/-- Of two faults that never occur together, either can be looked for first. -/
theorem exchange {p q : Prop} [Decidable p] [Decidable q] {e e' : ManifestFault} (h : p → ¬ q) :
    ((if q then .error e' else .ok ()) >>= fun _ => if p then .error e else .ok () :
        Except ManifestFault Unit) =
      if p then .error e else if q then .error e' else .ok () := by
  by_cases hp : p
  · rw [if_neg (h hp), if_pos hp]
    rfl
  · rw [if_neg hp]
    split <;> rfl

/-- The names seen before hide none of the block's. So it makes no difference that a name is
compared with the block's names first. -/
theorem checks_generics (block : ImplBlock) (function : String) (generics : List TypeParam) :
    Checks (inTurn (c.genericDemands block function) [] (generics.map (·.name)))
      (checkFunctionGenerics c block block.selfTy.simpleName function generics) := by
  refine checks_checkDistinct (fun seen => ∀ name ∈ seen, name ∉ block.generics.map (·.name))
    (fun seen name hseen => ?step) (fun seen name hseen hmet => ?seen) (List.forall_mem_nil _) _
  case step =>
    have hany : block.generics.any (·.name == name) = true ↔
        ¬ name ∉ block.generics.map (·.name) := by
      simp
    have hfirst : name ∈ seen → ¬ block.generics.any (·.name == name) = true := fun hname =>
      hany.not.2 (not_not.2 (hseen name hname))
    have hchecks := (checks_checkName c name "generic parameter").bind fun _ =>
      Checks.guard (e := c.invalid
        s!"generic parameter '{name}' is declared twice on '{function}'" name)
        (not_not (a := name ∈ seen)).symm fun _ =>
      Checks.guard (e := c.shadowedGeneric name function block.selfTy.simpleName) hany fun _ =>
      .passed
    simp only [← exchange hfirst] at hchecks
    rw [checkNew]
    revert hchecks
    cases c.checkName name "generic parameter" <;> exact id
  case seen =>
    have hnew : name ∉ block.generics.map (·.name) :=
      hmet _ (List.mem_cons_of_mem _ (List.mem_cons_of_mem _ List.mem_cons_self))
    exact List.forall_mem_cons.2 ⟨hnew, hseen⟩

theorem checks_annotation (a : Annotation) :
    Checks (c.annotationDemands a) <| checkAnnotation c a := by
  obtain ⟨typeName, method⟩ := a
  cases typeName with
  | none =>
    cases method with
    | none => exact .passed
    | some method => exact checks_checkName c method _
  | some type =>
    refine (checks_checkName c type _).bind fun _ => ?_
    cases method with
    | none => exact .passed
    | some method => exact checks_checkName c method _

theorem checks_function (block : ImplBlock) (f : FunctionDecl) :
    Checks (c.functionDemands block f) (checkFunction c block block.selfTy.simpleName f) := by
  have hfree : (f.isConstructor && f.receiver.isSome) = true ↔
      ¬ ¬ (f.isConstructor = true ∧ f.receiver.isSome = true) := by
    rw [not_not, Bool.and_eq_true]
  unfold Context.functionDemands checkFunction
  rw [List.append_assoc, List.append_assoc]
  refine (checks_checkName c f.name "function").bind fun _ => .guard hfree fun _ => ?_
  refine (checks_generics _ block _ f.generics).bind fun _ =>
    (checks_names _ _ _ _).bind fun _ => ?_
  cases f.annotation with
  | none => exact .passed
  | some a =>
    rw [Option.toList_some, List.flatMap_singleton]
    exact checks_annotation _ a

theorem checks_block (block : ImplBlock) : Checks (c.blockDemands block) (checkBlock c block) := by
  have hpath : (!block.selfTy.isPath) = true ↔ ¬ block.selfTy.isPath = true := by simp
  unfold Context.blockDemands checkBlock
  rw [List.append_assoc]
  refine .guard hpath fun _ => ?_
  exact (checks_names _ _ _ _).bind fun _ =>
    .forM fun f _ => checks_function _ block f

theorem checks_validate (source : String) (m : Manifest) :
    Checks (demands source m) (validate source m) :=
  (checks_useDemands _ _).bind fun _ => .forM fun block _ => checks_block _ block

end Checks

/-! ## The demands are met by valid manifests -/

theorem forall_inTurn {each : List String → String → List (Requirement ManifestFault)}
    {P : String → Prop}
    (h : ∀ seen name, (∀ r ∈ each seen name, r.Met) ↔ P name ∧ name ∉ seen)
    (seen names : List String) :
    (∀ r ∈ inTurn each seen names, r.Met) ↔
      (∀ name ∈ names, P name ∧ name ∉ seen) ∧ names.Nodup := by
  induction names generalizing seen with
  | nil => simp [inTurn]
  | cons name rest ih =>
    rw [inTurn, List.forall_mem_append, h, ih, List.forall_mem_cons, List.nodup_cons]
    constructor
    · rintro ⟨hname, hrest, hnodup⟩
      refine ⟨⟨hname, fun other hother => ?_⟩, fun hmem => ?_, hnodup⟩
      · obtain ⟨hP, hseen⟩ := hrest other hother
        exact ⟨hP, fun hmem => hseen (List.mem_cons_of_mem _ hmem)⟩
      · exact (hrest name hmem).2 List.mem_cons_self
    · rintro ⟨⟨hname, hrest⟩, hnew, hnodup⟩
      refine ⟨hname, fun other hother => ?_, hnodup⟩
      obtain ⟨hP, hseen⟩ := hrest other hother
      refine ⟨hP, ?_⟩
      rw [List.mem_cons, not_or]
      exact ⟨fun heq => hnew (heq ▸ hother), hseen⟩

section Met

variable (c : Context)

theorem forall_useDemands (uses : List String) :
    (∀ r ∈ c.useDemands uses, r.Met) ↔
      ∀ u ∈ uses, ∃ ch ∈ u.toList, Text.isBlank ch = false := by
  rw [Context.useDemands, List.forall_mem_map]
  conv_rhs => rw [← List.zipIdx_map_fst 0 uses, List.forall_mem_map]

theorem forall_nameDemands (kind : String) (repeated : String → ManifestFault)
    (seen : List String) (name : String) :
    (∀ r ∈ c.nameDemands kind repeated seen name, r.Met) ↔ Usable name ∧ name ∉ seen := by
  simp [Context.nameDemands, Context.usable]

theorem forall_names (kind : String) (repeated : String → ManifestFault) (names : List String) :
    (∀ r ∈ inTurn (c.nameDemands kind repeated) [] names, r.Met) ↔
      (∀ name ∈ names, Usable name) ∧ names.Nodup := by
  rw [forall_inTurn (forall_nameDemands c kind repeated)]
  simp

theorem forall_generics (block : ImplBlock) (function : String) (generics : List TypeParam) :
    (∀ r ∈ inTurn (c.genericDemands block function) [] (generics.map (·.name)), r.Met) ↔
      (∀ p ∈ generics, Usable p.name ∧ p.name ∉ block.generics.map (·.name)) ∧
        (generics.map (·.name)).Nodup := by
  have heach : ∀ seen name, (∀ r ∈ c.genericDemands block function seen name, r.Met) ↔
      (Usable name ∧ name ∉ block.generics.map (·.name)) ∧ name ∉ seen := by
    intro seen name
    rw [Context.genericDemands, List.forall_mem_append, forall_nameDemands,
      List.forall_mem_singleton, and_right_comm]
  rw [forall_inTurn heach, List.forall_mem_map]
  simp

theorem forall_annotationDemands (a : Annotation) :
    (∀ r ∈ c.annotationDemands a, r.Met) ↔
      (∀ name ∈ a.className, Usable name) ∧ ∀ name ∈ a.methodName, Usable name := by
  simp [Context.annotationDemands, Context.usable, or_imp, forall_and]

theorem forall_function (block : ImplBlock) (f : FunctionDecl) :
    (∀ r ∈ c.functionDemands block f, r.Met) ↔ f.Valid block := by
  rw [Context.functionDemands, List.forall_mem_append, List.forall_mem_append,
    List.forall_mem_append, forall_generics, forall_names, List.forall_mem_flatMap,
    List.forall_mem_map]
  simp only [forall_annotationDemands, Option.mem_toList, List.forall_mem_cons, List.not_mem_nil,
    false_implies, implies_true, and_true]
  constructor
  · rintro ⟨⟨⟨⟨hname, hfree⟩, hgenerics, hgenericNodup⟩, hargs, hargNodup⟩, hgiven⟩
    exact
      { name := hname
        free := hfree
        generic := fun p hp => (hgenerics p hp).1
        genericNodup := hgenericNodup
        unshadowed := fun p hp => (hgenerics p hp).2
        arg := hargs
        argNodup := hargNodup
        className := fun a ha => (hgiven a ha).1
        methodName := fun a ha => (hgiven a ha).2 }
  · intro h
    exact ⟨⟨⟨⟨h.name, h.free⟩, fun p hp => ⟨h.generic p hp, h.unshadowed p hp⟩,
      h.genericNodup⟩, h.arg, h.argNodup⟩, fun a ha => ⟨h.className a ha, h.methodName a ha⟩⟩

theorem forall_block (block : ImplBlock) :
    (∀ r ∈ c.blockDemands block, r.Met) ↔ block.Valid := by
  rw [Context.blockDemands, List.forall_mem_append, List.forall_mem_append, forall_names,
    List.forall_mem_map, List.forall_mem_flatMap]
  simp only [forall_function, List.forall_mem_cons, List.not_mem_nil, false_implies, implies_true,
    and_true]
  constructor
  · rintro ⟨⟨hpath, hgeneric, hnodup⟩, hfunctions⟩
    exact ⟨hpath, hgeneric, hnodup, hfunctions⟩
  · rintro ⟨hpath, hgeneric, hnodup, hfunctions⟩
    exact ⟨⟨hpath, hgeneric, hnodup⟩, hfunctions⟩

theorem forall_demands (source : String) (m : Manifest) :
    (∀ r ∈ demands source m, r.Met) ↔ m.Valid := by
  rw [demands, List.forall_mem_append, forall_useDemands, List.forall_mem_flatMap]
  simp only [forall_block]
  constructor
  · rintro ⟨huses, hblocks⟩
    exact ⟨huses, hblocks⟩
  · rintro ⟨huses, hblocks⟩
    exact ⟨huses, hblocks⟩

end Met

/-- Validation passes if and only if the manifest is valid. Otherwise it reports the fault of the
first demand that is not met, in the order of the manifest. -/
theorem validate_reports_first (source : String) (m : Manifest) :
    (validate source m = .ok () ↔ m.Valid) ∧
      ((∀ r ∈ demands source m, r.Met) ↔ m.Valid) ∧
      ∀ e, validate source m = .error e ↔
        ∃ before r after, demands source m = before ++ r :: after ∧ (∀ q ∈ before, q.Met) ∧
          ¬ r.Met ∧ r.fault = e := by
  have hchecks := checks_validate source m
  have hvalid := forall_demands source m
  exact ⟨hchecks.eq_ok_iff.trans hvalid, hvalid, fun _ => hchecks.eq_error_iff⟩

end Manifest

end Buildwright
