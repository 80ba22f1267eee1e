import Buildwright.Tree

/-!
# Trees by their arguments

The traversals of a tree recurse over lists of segments and arguments. Here each of them gets one
equation per constructor, over ordinary list operations, and trees get an induction principle in
which the arguments of a path are reached at once.
-/

namespace Buildwright

namespace Arg

def ty : Arg ν → Tree ν
  | .type t => t
  | .binding _ t => t

def map (f : Tree ν → Tree μ) : Arg ν → Arg μ
  | .type t => .type (f t)
  | .binding name t => .binding name (f t)

@[simp] theorem ty_map (f : Tree ν → Tree μ) (a : Arg ν) : (a.map f).ty = f a.ty := by
  cases a <;> rfl

@[simp] theorem map_id (a : Arg ν) : a.map id = a := by
  cases a <;> rfl

theorem map_congr {f g : Tree ν → Tree μ} {a : Arg ν} (h : f a.ty = g a.ty) :
    a.map f = a.map g := by
  cases a with
  | type t => exact congrArg Arg.type h
  | binding name t => exact congrArg (Arg.binding name) h

end Arg

namespace Segment

def types (s : Segment ν) : List (Tree ν) := s.args.map Arg.ty

def map (f : Tree ν → Tree μ) (s : Segment ν) : Segment μ := .mk s.ident (s.args.map (Arg.map f))

@[simp] theorem ident_mk (ident : String) (args : List (Arg ν)) : (mk ident args).ident = ident :=
  rfl

@[simp] theorem args_mk (ident : String) (args : List (Arg ν)) : (mk ident args).args = args := rfl

@[simp] theorem ident_map (f : Tree ν → Tree μ) (s : Segment ν) : (s.map f).ident = s.ident := rfl

@[simp] theorem types_map (f : Tree ν → Tree μ) (s : Segment ν) :
    (s.map f).types = s.types.map f := by
  simp [types, map, Function.comp_def]

theorem map_id (s : Segment ν) : s.map id = s := by
  cases s with
  | mk ident args =>
    have hargs : args.map (Arg.map id) = args := by
      rw [List.map_congr_left fun a _ => a.map_id, List.map_id']
    exact congrArg (mk ident) hargs

theorem map_map (f : Tree ν → Tree μ) (g : Tree μ → Tree ξ) (s : Segment ν) :
    (s.map f).map g = s.map (g ∘ f) := by
  have harg : Arg.map g ∘ Arg.map f = Arg.map (g ∘ f) := by
    funext a
    cases a <;> rfl
  rw [map, map, map, args_mk, List.map_map, harg]
  rfl

theorem map_congr {f g : Tree ν → Tree μ} {s : Segment ν} (h : ∀ t ∈ s.types, f t = g t) :
    s.map f = s.map g := by
  unfold map
  congr 1
  exact List.map_congr_left fun a ha => Arg.map_congr (h a.ty (List.mem_map_of_mem ha))

theorem map_eq_map_iff {f g : Tree ν → Tree μ} {s : Segment ν} :
    s.map f = s.map g ↔ ∀ t ∈ s.types, f t = g t := by
  refine ⟨fun h => List.map_inj_left.1 ?_, map_congr⟩
  rw [← types_map, ← types_map, h]

end Segment

namespace Tree

/-- Induction over trees. In the case of a path the hypothesis is there for the types in its
arguments. -/
@[elab_as_elim, induction_eliminator]
theorem inductionOn {motive : Tree ν → Prop} (t : Tree ν)
    (var : ∀ v, motive (.var v))
    (path : ∀ rooted segments, (∀ s ∈ segments, ∀ u ∈ s.types, motive u) →
      motive (.path rooted segments))
    (tuple : ∀ elems, (∀ u ∈ elems, motive u) → motive (.tuple elems))
    (array : ∀ elem len, motive elem → motive (.array elem len)) : motive t := by
  refine Tree.rec (motive_1 := motive) (motive_2 := fun s => ∀ u ∈ s.types, motive u)
    (motive_3 := fun a => motive a.ty) (motive_4 := fun ss => ∀ s ∈ ss, ∀ u ∈ s.types, motive u)
    (motive_5 := fun ts => ∀ u ∈ ts, motive u)
    (motive_6 := fun as => ∀ u ∈ as.map Arg.ty, motive u)
    var path tuple array ?segment ?type ?binding ?noSegments ?segments ?noTrees ?trees ?noArgs
    ?args t
  case segment => exact fun _ _ h => h
  case type => exact fun _ h => h
  case binding => exact fun _ _ h => h
  case noSegments => simp
  case segments => exact fun _ _ hs hss => List.forall_mem_cons.2 ⟨hs, hss⟩
  case noTrees => simp
  case trees => exact fun _ _ ht hts => List.forall_mem_cons.2 ⟨ht, hts⟩
  case noArgs => simp
  case args => exact fun _ _ ha has => List.forall_mem_cons.2 ⟨ha, has⟩

/-! ## Variables -/

private theorem varsOfTrees_eq (ts : List (Tree ν)) : varsOfTrees ts = ts.flatMap vars := by
  induction ts with
  | nil => rfl
  | cons t ts ih => rw [varsOfTrees, ih, List.flatMap_cons]

private theorem varsOfArgs_eq (as : List (Arg ν)) :
    varsOfArgs as = (as.map Arg.ty).flatMap vars := by
  induction as with
  | nil => rfl
  | cons a as ih => cases a <;> simp [varsOfArgs, varsOfArg, Arg.ty, ih]

private theorem varsOfSegments_eq (ss : List (Segment ν)) :
    varsOfSegments ss = (ss.flatMap Segment.types).flatMap vars := by
  induction ss with
  | nil => rfl
  | cons s ss ih => cases s; simp [varsOfSegments, varsOfSegment, varsOfArgs_eq, Segment.types, ih]

@[simp] theorem vars_var (v : ν) : (var v).vars = [v] := by rw [vars]

@[simp] theorem vars_path (rooted : Bool) (segments : List (Segment ν)) :
    (path rooted segments).vars = (segments.flatMap Segment.types).flatMap vars := by
  rw [vars, varsOfSegments_eq]

@[simp] theorem vars_tuple (elems : List (Tree ν)) : (tuple elems).vars = elems.flatMap vars := by
  rw [vars, varsOfTrees_eq]

@[simp] theorem vars_array (elem : Tree ν) (len : String) : (array elem len).vars = elem.vars := by
  rw [vars]

/-! ## Paths -/

mutual

/-- All paths in a type, each before the paths in its arguments. -/
def paths : Tree ν → List (Tree ν)
  | .var _ => []
  | .path rooted segments => .path rooted segments :: pathsOfSegments segments
  | .tuple elems => pathsOfTrees elems
  | .array elem _ => paths elem

def pathsOfTrees : List (Tree ν) → List (Tree ν)
  | [] => []
  | t :: rest => paths t ++ pathsOfTrees rest

def pathsOfSegment : Segment ν → List (Tree ν)
  | .mk _ args => pathsOfArgs args

def pathsOfSegments : List (Segment ν) → List (Tree ν)
  | [] => []
  | s :: rest => pathsOfSegment s ++ pathsOfSegments rest

def pathsOfArg : Arg ν → List (Tree ν)
  | .type t => paths t
  | .binding _ t => paths t

def pathsOfArgs : List (Arg ν) → List (Tree ν)
  | [] => []
  | a :: rest => pathsOfArg a ++ pathsOfArgs rest

end

private theorem pathsOfTrees_eq (ts : List (Tree ν)) : pathsOfTrees ts = ts.flatMap paths := by
  induction ts with
  | nil => rfl
  | cons t ts ih => rw [pathsOfTrees, ih, List.flatMap_cons]

private theorem pathsOfArgs_eq (as : List (Arg ν)) :
    pathsOfArgs as = (as.map Arg.ty).flatMap paths := by
  induction as with
  | nil => rfl
  | cons a as ih => cases a <;> simp [pathsOfArgs, pathsOfArg, Arg.ty, ih]

private theorem pathsOfSegments_eq (ss : List (Segment ν)) :
    pathsOfSegments ss = (ss.flatMap Segment.types).flatMap paths := by
  induction ss with
  | nil => rfl
  | cons s ss ih =>
    cases s; simp [pathsOfSegments, pathsOfSegment, pathsOfArgs_eq, Segment.types, ih]

@[simp] theorem paths_var (v : ν) : (var v).paths = [] := by rw [paths]

@[simp] theorem paths_path (rooted : Bool) (segments : List (Segment ν)) :
    (path rooted segments).paths =
      path rooted segments :: (segments.flatMap Segment.types).flatMap paths := by
  rw [paths, pathsOfSegments_eq]

@[simp] theorem paths_tuple (elems : List (Tree ν)) :
    (tuple elems).paths = elems.flatMap paths := by
  rw [paths, pathsOfTrees_eq]

@[simp] theorem paths_array (elem : Tree ν) (len : String) :
    (array elem len).paths = elem.paths := by
  rw [paths]

/-! ## Substitution -/

private theorem bindTrees_eq (f : ν → Tree μ) (ts : List (Tree ν)) :
    bindTrees f ts = ts.map (bind f) := by
  induction ts with
  | nil => rfl
  | cons t ts ih => rw [bindTrees, ih, List.map_cons]

private theorem bindArgs_eq (f : ν → Tree μ) (as : List (Arg ν)) :
    bindArgs f as = as.map (Arg.map (bind f)) := by
  induction as with
  | nil => rfl
  | cons a as ih => cases a <;> simp [bindArgs, bindArg, Arg.map, ih]

private theorem bindSegments_eq (f : ν → Tree μ) (ss : List (Segment ν)) :
    bindSegments f ss = ss.map (Segment.map (bind f)) := by
  induction ss with
  | nil => rfl
  | cons s ss ih => cases s; simp [bindSegments, bindSegment, bindArgs_eq, Segment.map, ih]

@[simp] theorem bind_var (f : ν → Tree μ) (v : ν) : (var v).bind f = f v := by rw [bind]

@[simp] theorem bind_path (f : ν → Tree μ) (rooted : Bool) (segments : List (Segment ν)) :
    (path rooted segments).bind f = path rooted (segments.map (Segment.map (bind f))) := by
  rw [bind, bindSegments_eq]

@[simp] theorem bind_tuple (f : ν → Tree μ) (elems : List (Tree ν)) :
    (tuple elems).bind f = tuple (elems.map (bind f)) := by
  rw [bind, bindTrees_eq]

@[simp] theorem bind_array (f : ν → Tree μ) (elem : Tree ν) (len : String) :
    (array elem len).bind f = array (elem.bind f) len := by
  rw [bind]

/-! ## Names with a meaning -/

mutual

/-- Every bare path of one name to which `names` gives a meaning is replaced by it. -/
def resolve (names : String → Option (Tree ν)) : Tree Empty → Tree ν
  | .path false [.mk s []] => (names s).getD (name s)
  | .path rooted segments => .path rooted (resolveSegments names segments)
  | .tuple elems => .tuple (resolveTrees names elems)
  | .array elem len => .array (resolve names elem) len

def resolveTrees (names : String → Option (Tree ν)) : List (Tree Empty) → List (Tree ν)
  | [] => []
  | t :: rest => resolve names t :: resolveTrees names rest

def resolveSegment (names : String → Option (Tree ν)) : Segment Empty → Segment ν
  | .mk ident args => .mk ident (resolveArgs names args)

def resolveSegments (names : String → Option (Tree ν)) : List (Segment Empty) → List (Segment ν)
  | [] => []
  | s :: rest => resolveSegment names s :: resolveSegments names rest

def resolveArg (names : String → Option (Tree ν)) : Arg Empty → Arg ν
  | .type t => .type (resolve names t)
  | .binding name t => .binding name (resolve names t)

def resolveArgs (names : String → Option (Tree ν)) : List (Arg Empty) → List (Arg ν)
  | [] => []
  | a :: rest => resolveArg names a :: resolveArgs names rest

end

private theorem resolveTrees_eq (names : String → Option (Tree ν)) (ts : List (Tree Empty)) :
    resolveTrees names ts = ts.map (resolve names) := by
  induction ts with
  | nil => rfl
  | cons t ts ih => rw [resolveTrees, ih, List.map_cons]

private theorem resolveArgs_eq (names : String → Option (Tree ν)) (as : List (Arg Empty)) :
    resolveArgs names as = as.map (Arg.map (resolve names)) := by
  induction as with
  | nil => rfl
  | cons a as ih => cases a <;> simp [resolveArgs, resolveArg, Arg.map, ih]

private theorem resolveSegments_eq (names : String → Option (Tree ν))
    (ss : List (Segment Empty)) :
    resolveSegments names ss = ss.map (Segment.map (resolve names)) := by
  induction ss with
  | nil => rfl
  | cons s ss ih => cases s; simp [resolveSegments, resolveSegment, resolveArgs_eq, Segment.map, ih]

@[simp] theorem resolve_name (names : String → Option (Tree ν)) (s : String) :
    (name s).resolve names = (names s).getD (name s) := by
  rw [name, resolve]

theorem resolve_path (names : String → Option (Tree ν)) {rooted : Bool}
    {segments : List (Segment Empty)} (h : (path rooted segments).name? = none) :
    (path rooted segments).resolve names =
      path rooted (segments.map (Segment.map (resolve names))) := by
  rw [resolve, resolveSegments_eq]
  rintro s rfl rfl
  simp [name?] at h

@[simp] theorem resolve_tuple (names : String → Option (Tree ν)) (elems : List (Tree Empty)) :
    (tuple elems).resolve names = tuple (elems.map (resolve names)) := by
  rw [resolve, resolveTrees_eq]

@[simp] theorem resolve_array (names : String → Option (Tree ν)) (elem : Tree Empty)
    (len : String) : (array elem len).resolve names = array (elem.resolve names) len := by
  rw [resolve]

theorem eq_name_of_name? {t : Tree ν} {s : String} (h : t.name? = some s) : t = name s := by
  unfold name? at h
  split at h
  · cases h
    rfl
  · cases h

@[simp] theorem name?_name (s : String) : (name s : Tree ν).name? = some s := rfl

end Tree

end Buildwright
