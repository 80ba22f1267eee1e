import Buildwright.Source.Fragment

/-!
# Items of the emitted source

Structs, functions, `impl` blocks and imports, and the fragments that they are written as.
-/

namespace Buildwright.Source

structure Generic where
  name : String
  bounds : List String
deriving Inhabited

namespace Generic

def declaration (g : Generic) : String :=
  match g.bounds with
  | [] => g.name
  | bounds => g.name ++ ": " ++ Text.joined " + " bounds

/-- Parts between angle brackets; no parts, no brackets. -/
def angled : List String → String
  | [] => ""
  | parts => "<" ++ Text.joined ", " parts ++ ">"

def declarations (gs : List Generic) : String := angled (gs.map declaration)

def arguments (gs : List Generic) : String := angled (gs.map (·.name))

end Generic

def docFragments (doc : Option String) : List Fragment := (doc.map Fragment.doc).toList

structure Struct where
  name : String
  generics : List Generic
  doc : Option String
  derives : List String
  /-- Names with their types. -/
  fields : List (String × String)
deriving Inhabited

def Struct.fragments (s : Struct) : List Fragment :=
  let head := "pub struct " ++ s.name ++ Generic.declarations s.generics
  let derives := match s.derives with
    | [] => []
    | derives => [.line ("#[derive(" ++ Text.joined ", " derives ++ ")]")]
  let body := match s.fields with
    | [] => .line (head ++ ";")
    | fields =>
      .braced (head ++ " \x7b") (fields.map fun (name, ty) => .line (name ++ ": " ++ ty ++ ","))
  docFragments s.doc ++ derives ++ [body]

inductive Formal where
  | receiver (isMutable : Bool)
  | named (name ty : String)
deriving Repr, DecidableEq, Inhabited

/-- A name stands alone where its type is empty. -/
def Formal.text : Formal → String
  | .receiver isMutable => if isMutable then "mut self" else "self"
  | .named name "" => name
  | .named name ty => name ++ ": " ++ ty

/-- What a call names: a method of what a field holds, or a function by its path. -/
inductive Callee where
  | method (field name : String)
  | function (path : String)
deriving Repr, DecidableEq, Inhabited

def Callee.text : Callee → String
  | .method field name => "self." ++ field ++ "." ++ name
  | .function path => path

inductive Statement where
  /-- The struct with its fields, each with an expression, or alone if a parameter has its name. -/
  | construct (fields : List (String × Option String))
  | assign (field param : String)
  | self
  /-- A call with fields as arguments. -/
  | call (callee : Callee) (args : List String)
  /-- Any other line. -/
  | line (text : String)
deriving Repr, DecidableEq, Inhabited

namespace Statement

def fieldText : String × Option String → String
  | (name, none) => "    " ++ name ++ ","
  | (name, some text) => "    " ++ name ++ ": " ++ text ++ ","

def lines : Statement → List String
  | .construct fields => "Self \x7b" :: fields.map fieldText ++ ["\x7d"]
  | .assign field param => ["self." ++ field ++ " = " ++ param ++ ";"]
  | .self => ["self"]
  | .call callee args =>
    [callee.text ++ "(" ++ Text.joined ", " (args.map fun a => "self." ++ a) ++ ")"]
  | .line text => [text]

end Statement

structure Function where
  name : String
  doc : Option String
  isPublic : Bool
  params : List Formal
  returns : Option String
  wheres : List String
  body : List Statement
deriving Inhabited

namespace Function

def signature (f : Function) : String :=
  (if f.isPublic then "pub " else "") ++ "fn " ++ f.name ++
    "(" ++ Text.joined ", " (f.params.map Formal.text) ++ ")" ++
    (match f.returns with
      | some ty => " -> " ++ ty
      | none => "")

/-- The lines of the body. -/
def lines (f : Function) : List String := f.body.flatMap Statement.lines

def fragments (f : Function) : List Fragment :=
  let body := f.lines.map Fragment.line
  docFragments f.doc ++
    match f.wheres with
    | [] => [.braced (f.signature ++ " \x7b") body]
    | wheres =>
      [.line f.signature, .block "where" (wheres.map fun p => .line (p ++ ",")) none,
        .braced "\x7b" body]

end Function

structure Impl where
  name : String
  generics : List Generic
  trait : Option String
  methods : List Function
deriving Inhabited

namespace Impl

def header (i : Impl) : String :=
  "impl" ++ Generic.declarations i.generics ++ " " ++
    (match i.trait with
      | some t => t ++ " for "
      | none => "") ++
    i.name ++ Generic.arguments i.generics ++ " \x7b"

/-- Lists of fragments with a blank line between two neighbours. -/
def spaced : List (List Fragment) → List Fragment
  | [] => []
  | [fs] => fs
  | fs :: rest => fs ++ .blank :: spaced rest

def fragments (i : Impl) : List Fragment :=
  [.braced i.header (spaced (i.methods.map Function.fragments))]

end Impl

/-- The line that imports a path; semicolons at the path's end are left out. -/
def useFragments (path : String) : List Fragment :=
  let path := String.ofList (path.toList.reverse.dropWhile (· == ';')).reverse
  [.line ("use " ++ path ++ ";")]

/-- A source file: imports, then items, each given by its fragments. -/
structure File where
  uses : List String
  items : List (List Fragment)
deriving Inhabited

namespace File

def fragments (f : File) : List Fragment :=
  f.uses.flatMap useFragments ++
    (if f.uses.isEmpty || f.items.isEmpty then [] else [.blank]) ++ Impl.spaced f.items

def render (f : File) : String := Source.render f.fragments

/-- The file under a header line, with a blank line between the two. -/
def renderUnder (f : File) (header : String) : String :=
  let content := f.render
  if content.isEmpty then header ++ "\n" else header ++ "\n\n" ++ content

end File

end Buildwright.Source
