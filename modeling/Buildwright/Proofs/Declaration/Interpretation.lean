import Buildwright.Declaration.Extraction
import Buildwright.Proofs.Checked
import Buildwright.Proofs.Tree.Structure

/-!
# Interpreting types

A type is checked and resolved in one pass that stops at the first path without a meaning. Here the
pass is taken apart: the faults are those of the paths, in their order, and the resolved type has
nothing to do with them. A declaration is taken apart in the same way.
-/

namespace Buildwright

namespace Names

def fault? (n : Names) (t : TypeExpr) : Option String := t.paths.findSome? n.pathFault?

def lower (n : Names) (t : TypeExpr) : Ty := t.resolve n.meaning?

def typeVar (n : Names) (scope : Scope) (p : TypeParam) : TypeVar :=
  ⟨p.name, scope, p.bounds.map n.lower⟩

variable (n : Names)

/-! ## The parts of a type -/

theorem interpretTrees_eq (ts : List TypeExpr) : n.interpretTrees ts = ts.mapM n.interpret := by
  induction ts with
  | nil => rfl
  | cons t ts ih => rw [interpretTrees, ih, List.mapM_cons]

theorem interpretArgs_eq (as : List (Arg Empty)) :
    n.interpretArgs as = as.mapM n.interpretArg := by
  induction as with
  | nil => rfl
  | cons a as ih => rw [interpretArgs, ih, List.mapM_cons]

theorem interpretSegments_eq (ss : List (Segment Empty)) :
    n.interpretSegments ss = ss.mapM n.interpretSegment := by
  induction ss with
  | nil => rfl
  | cons s ss ih => rw [interpretSegments, ih, List.mapM_cons]

theorem fault?_path (rooted : Bool) (segments : List (Segment Empty)) :
    n.fault? (.path rooted segments) =
      (n.pathFault? (.path rooted segments)).or
        (segments.findSome? fun s => s.types.findSome? n.fault?) := by
  rw [fault?, Tree.paths_path, findSome?_cons_eq_or, findSome?_flatMap, findSome?_flatMap]
  rfl

theorem fault?_tuple (elems : List TypeExpr) :
    n.fault? (.tuple elems) = elems.findSome? n.fault? := by
  rw [fault?, Tree.paths_tuple, findSome?_flatMap]
  rfl

theorem fault?_array (elem : TypeExpr) (len : String) :
    n.fault? (.array elem len) = n.fault? elem := by
  rw [fault?, Tree.paths_array, fault?]

variable {n}

theorem interpretArg_eq {a : Arg Empty}
    (h : n.interpret a.ty = barring (n.fault? a.ty) (n.lower a.ty)) :
    n.interpretArg a = barring (n.fault? a.ty) (a.map n.lower) := by
  cases a with
  | type t => exact map_eq_barring h
  | binding name t => exact map_eq_barring h

theorem interpretSegment_eq {s : Segment Empty}
    (h : ∀ t ∈ s.types, n.interpret t = barring (n.fault? t) (n.lower t)) :
    n.interpretSegment s = barring (s.types.findSome? n.fault?) (s.map n.lower) := by
  obtain ⟨ident, args⟩ := s
  have hargs : args.mapM n.interpretArg =
      barring (args.findSome? fun a => n.fault? a.ty) (args.map (Arg.map n.lower)) :=
    mapM_eq_barring fun a ha => interpretArg_eq (h a.ty (List.mem_map_of_mem ha))
  rw [interpretSegment, interpretArgs_eq, Segment.types, List.findSome?_map]
  exact map_eq_barring hargs

/-! ## A whole type -/

/-- A path that has no fault and is not replaced keeps its segments, with their types resolved. -/
theorem lower_path {rooted : Bool} {segments : List (Segment Empty)}
    (h : (Tree.path rooted segments).name?.bind n.meaning? = none) :
    n.lower (.path rooted segments) = .path rooted (segments.map (Segment.map n.lower)) := by
  cases hname : (Tree.path rooted segments).name? with
  | none => exact Tree.resolve_path _ hname
  | some s =>
    rw [hname, Option.bind_some] at h
    obtain ⟨rfl, rfl⟩ : rooted = false ∧ segments = [.mk s []] := by
      simpa [Tree.name] using Tree.eq_name_of_name? hname
    rw [lower]
    show (Tree.name s).resolve n.meaning? = _
    rw [Tree.resolve_name, h]
    rfl

variable (n)

theorem interpret_eq (t : TypeExpr) : n.interpret t = barring (n.fault? t) (n.lower t) := by
  induction t using Tree.inductionOn with
  | var v => exact v.elim
  | path rooted segments ih =>
    have hsegments : segments.mapM n.interpretSegment =
        barring (segments.findSome? fun s => s.types.findSome? n.fault?)
          (segments.map (Segment.map n.lower)) :=
      mapM_eq_barring fun s hs => interpretSegment_eq (ih s hs)
    rw [interpret, fault?_path]
    split
    · next reason hreason =>
      rw [hreason]
      rfl
    · next hnone =>
      rw [hnone, Option.none_or]
      split
      · next t ht =>
        -- A path that is replaced is a bare name, and has no arguments.
        obtain ⟨s, hname, hs⟩ := Option.bind_eq_some_iff.1 ht
        have hpath : Tree.path rooted segments = Tree.name s := Tree.eq_name_of_name? hname
        have hbare : segments = [.mk s []] := by
          cases hpath
          rfl
        rw [hpath, hbare, lower, Tree.resolve_name, hs]
        rfl
      · next hkept =>
        rw [lower_path hkept, interpretSegments_eq]
        exact map_eq_barring hsegments
  | tuple elems ih =>
    have helems : elems.mapM n.interpret =
        barring (elems.findSome? n.fault?) (elems.map n.lower) :=
      mapM_eq_barring ih
    rw [interpret, interpretTrees_eq, fault?_tuple, lower, Tree.resolve_tuple]
    exact map_eq_barring helems
  | array elem len ih =>
    rw [interpret, fault?_array, lower, Tree.resolve_array]
    exact map_eq_barring ih

theorem interpretTypeParam_eq (scope : Scope) (p : TypeParam) :
    n.interpretTypeParam scope p =
      barring (p.bounds.findSome? n.fault?) (n.typeVar scope p) := by
  have hbounds : p.bounds.mapM n.interpret =
      barring (p.bounds.findSome? n.fault?) (p.bounds.map n.lower) :=
    mapM_eq_barring fun b _ => n.interpret_eq b
  exact map_eq_barring hbounds

theorem interpretParam_eq (p : Parameter) :
    n.interpretParam p = barring (n.fault? p.type) ⟨p.name, n.lower p.type⟩ :=
  map_eq_barring (n.interpret_eq p.type)

end Names

namespace Declaration

def selfTy (d : Declaration) : Ty := d.ownerNames.lower d.block.selfTy

def names (d : Declaration) : Names := d.namesWith d.selfTy

def ownerTypes (d : Declaration) : List TypeExpr :=
  d.block.selfTy :: d.block.generics.flatMap (·.bounds)

/-- The function's own types: bounds, parameters, return type. -/
def ownTypes (d : Declaration) : List TypeExpr :=
  d.function.generics.flatMap (·.bounds) ++ d.function.args.map (·.type) ++ [d.function.returnType]

def fault? (d : Declaration) : Option String :=
  if d.function.args.isEmpty then
    some "a builder needs at least one parameter to set"
  else
    (d.ownerTypes.findSome? d.ownerNames.fault?).or (d.ownTypes.findSome? d.names.fault?)

def callable (d : Declaration) : Callable :=
  { kind := d.kind
    name := d.function.name
    owner := ⟨d.selfTy, d.block.generics.map (d.ownerNames.typeVar .owner)⟩
    typeVars := d.function.generics.map (d.names.typeVar .callable)
    params := d.function.args.map fun p => ⟨p.name, d.names.lower p.type⟩
    returns := d.names.lower d.function.returnType
    className := d.function.annotation.bind (·.className)
    methodName := d.function.annotation.bind (·.methodName) }

theorem interpret_eq (d : Declaration) : d.interpret = barring d.fault? d.callable := by
  have howner : d.block.generics.mapM (d.ownerNames.interpretTypeParam .owner) = barring _ _ :=
    mapM_eq_barring fun p _ => d.ownerNames.interpretTypeParam_eq .owner p
  have htypeVars : d.function.generics.mapM (d.names.interpretTypeParam .callable) =
      barring _ _ :=
    mapM_eq_barring fun p _ => d.names.interpretTypeParam_eq .callable p
  have hparams : d.function.args.mapM d.names.interpretParam = barring _ _ :=
    mapM_eq_barring fun p _ => d.names.interpretParam_eq p
  unfold interpret fault?
  split
  · rfl
  · have hfaults : (d.ownerTypes.findSome? d.ownerNames.fault?).or
        (d.ownTypes.findSome? d.names.fault?) =
        (d.ownerNames.fault? d.block.selfTy).or
          ((d.block.generics.findSome? fun p => p.bounds.findSome? d.ownerNames.fault?).or
            ((d.function.generics.findSome? fun p => p.bounds.findSome? d.names.fault?).or
              ((d.function.args.findSome? fun p => d.names.fault? p.type).or
                (d.names.fault? d.function.returnType)))) := by
      simp only [ownerTypes, ownTypes, findSome?_cons_eq_or, findSome?_flatMap,
        List.findSome?_append, List.findSome?_map, List.findSome?_nil, Option.or_none,
        Option.or_assoc, Function.comp_def]
    rw [hfaults]
    refine bind_eq_barring (d.ownerNames.interpret_eq d.block.selfTy) <|
      bind_eq_barring howner <| bind_eq_barring htypeVars <| bind_eq_barring hparams ?_
    exact map_eq_barring (d.names.interpret_eq d.function.returnType)

end Declaration

end Buildwright
