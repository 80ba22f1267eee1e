import Buildwright.Text.Join

/-!
# Type trees

Types as trees of paths, tuples and arrays. The leaves `var v` stand for type variables; surface
types, as a manifest writes them, have none, and resolved types refer to a variable by its scope
and name.
-/

namespace Buildwright

mutual

inductive Tree (ν : Type) where
  | var (v : ν)
  /-- `Vec<T>`, `std::collections::HashMap<K, V>`; `rooted` if it starts with `::`. -/
  | path (rooted : Bool) (segments : List (Segment ν))
  /-- `(A, B)`; the empty tuple is the unit type. -/
  | tuple (elems : List (Tree ν))
  /-- `[T; 3]` -/
  | array (elem : Tree ν) (len : String)

/-- One name of a path, with its arguments between angle brackets. -/
inductive Segment (ν : Type) where
  | mk (ident : String) (args : List (Arg ν))

/-- An argument of a path segment: a type, or a binding such as `Item = T`. -/
inductive Arg (ν : Type) where
  | type (ty : Tree ν)
  | binding (name : String) (ty : Tree ν)

end

deriving instance Repr, Inhabited for Tree, Segment, Arg

namespace Segment

def ident : Segment ν → String
  | mk ident _ => ident

def args : Segment ν → List (Arg ν)
  | mk _ args => args

end Segment

namespace Tree

def unit : Tree ν := .tuple []

/-- A bare path of one name. -/
def name (s : String) : Tree ν := .path false [.mk s []]

def name? : Tree ν → Option String
  | .path false [.mk s []] => some s
  | _ => none

def lastSegment? : Tree ν → Option (Segment ν)
  | .path _ segments => segments.getLast?
  | _ => none

/-- The last name of a path, and the empty text for every other type. -/
def simpleName (t : Tree ν) : String :=
  match t.lastSegment? with
  | some segment => segment.ident
  | none => ""

def hasArgs : Tree ν → Bool
  | .path _ segments => segments.any fun s => !s.args.isEmpty
  | _ => false

def isPath : Tree ν → Bool
  | .path .. => true
  | _ => false

def isUnit : Tree ν → Bool
  | .tuple [] => true
  | _ => false

mutual

/-- The text of a type, given the text of its variables. -/
def text (varText : ν → String) : Tree ν → String
  | .var v => varText v
  | .path rooted segments =>
    (if rooted then "::" else "") ++ Text.joined "::" (segmentTexts varText segments)
  | .tuple [elem] => "(" ++ text varText elem ++ ",)"
  | .tuple elems => "(" ++ Text.joined ", " (texts varText elems) ++ ")"
  | .array elem len => "[" ++ text varText elem ++ "; " ++ len ++ "]"

def texts (varText : ν → String) : List (Tree ν) → List String
  | [] => []
  | t :: rest => text varText t :: texts varText rest

def segmentText (varText : ν → String) : Segment ν → String
  | .mk ident [] => ident
  | .mk ident args => ident ++ "<" ++ Text.joined ", " (argTexts varText args) ++ ">"

def segmentTexts (varText : ν → String) : List (Segment ν) → List String
  | [] => []
  | s :: rest => segmentText varText s :: segmentTexts varText rest

def argText (varText : ν → String) : Arg ν → String
  | .type t => text varText t
  | .binding name t => name ++ " = " ++ text varText t

def argTexts (varText : ν → String) : List (Arg ν) → List String
  | [] => []
  | a :: rest => argText varText a :: argTexts varText rest

end

mutual

/-- The variables of a type from left to right, with repetitions. -/
def vars : Tree ν → List ν
  | .var v => [v]
  | .path _ segments => varsOfSegments segments
  | .tuple elems => varsOfTrees elems
  | .array elem _ => vars elem

def varsOfTrees : List (Tree ν) → List ν
  | [] => []
  | t :: rest => vars t ++ varsOfTrees rest

def varsOfSegment : Segment ν → List ν
  | .mk _ args => varsOfArgs args

def varsOfSegments : List (Segment ν) → List ν
  | [] => []
  | s :: rest => varsOfSegment s ++ varsOfSegments rest

def varsOfArg : Arg ν → List ν
  | .type t => vars t
  | .binding _ t => vars t

def varsOfArgs : List (Arg ν) → List ν
  | [] => []
  | a :: rest => varsOfArg a ++ varsOfArgs rest

end

mutual

def bind (f : ν → Tree μ) : Tree ν → Tree μ
  | .var v => f v
  | .path rooted segments => .path rooted (bindSegments f segments)
  | .tuple elems => .tuple (bindTrees f elems)
  | .array elem len => .array (bind f elem) len

def bindTrees (f : ν → Tree μ) : List (Tree ν) → List (Tree μ)
  | [] => []
  | t :: rest => bind f t :: bindTrees f rest

def bindSegment (f : ν → Tree μ) : Segment ν → Segment μ
  | .mk ident args => .mk ident (bindArgs f args)

def bindSegments (f : ν → Tree μ) : List (Segment ν) → List (Segment μ)
  | [] => []
  | s :: rest => bindSegment f s :: bindSegments f rest

def bindArg (f : ν → Tree μ) : Arg ν → Arg μ
  | .type t => .type (bind f t)
  | .binding name t => .binding name (bind f t)

def bindArgs (f : ν → Tree μ) : List (Arg ν) → List (Arg μ)
  | [] => []
  | a :: rest => bindArg f a :: bindArgs f rest

end

/-- Variables to which `f` gives a replacement are replaced, the others stay. -/
def substitute (f : ν → Option (Tree ν)) (t : Tree ν) : Tree ν :=
  t.bind fun v => (f v).getD (.var v)

end Tree

abbrev TypeExpr := Tree Empty

namespace TypeExpr

/-- The text that reads back as the same type. -/
protected def toString (t : TypeExpr) : String := t.text Empty.elim

end TypeExpr

end Buildwright
