import Buildwright.Gallery.Function
import Buildwright.Gallery.Value

/-!
# The gallery

The builders of the gallery's manifest on show: their runs, with values that can be read and shown
in the place of the functions' own. Each type parameter stands for one type.
-/

namespace Buildwright.Gallery

inductive Instance where
  | none
  | signatures (s : ConfusingSignatures)
  | hasGen (h : HasGen)
  | tally (t : Tally)
deriving Repr, DecidableEq, Inhabited

namespace Instance

def signatures? : Instance → Option ConfusingSignatures
  | .signatures s => some s
  | _ => Option.none

def hasGen? : Instance → Option HasGen
  | .hasGen h => some h
  | _ => Option.none

def tally? : Instance → Option Tally
  | .tally t => some t
  | _ => Option.none

def display : Instance → String
  | .none => "()"
  | .signatures s => "ConfusingSignatures \x7b add_offset: " ++ toString s.addOffset ++ " \x7d"
  | .hasGen h => "HasGen \x7b which: " ++ toString h.which ++ " \x7d"
  | .tally t => "Tally \x7b total: " ++ toString t.total ++ " \x7d"

end Instance

/-- How a call ends: with a value and what has become of the instance, or in a panic. -/
abbrev Outcome := Except Panic (Value × Instance)

/-- The values that elements are read from and shown as. -/
structure View (ε : Type) where
  read : Value → Option ε
  shown : ε → Value

def intOf? : Value → Option Int
  | .int i => some i
  | _ => none

def textOf? : Value → Option String
  | .text s => some s
  | _ => none

namespace View

variable {ε : Type} (view : View ε)

def ints : View Int := ⟨intOf?, .int⟩

def texts : View String := ⟨textOf?, .text⟩

def argument? : (k : Kind) → Value → Option (k.Carrier ε)
  | .i32, v | .u32, v => intOf? v
  | .text, v => textOf? v
  | .optionalText, .absent => some none
  | .optionalText, .present v => (textOf? v).map some
  | .entries, .map entries => entries.mapM fun (key, v) => (intOf? v).map (key, ·)
  | .element, v => view.read v
  | .elements, .list items => items.mapM view.read
  | _, _ => none

def argument : Datum ε → Value
  | ⟨.i32, i⟩ | ⟨.u32, i⟩ => .int i
  | ⟨.text, s⟩ => .text s
  | ⟨.optionalText, s⟩ => (s.map fun s => .present (.text s)).getD .absent
  | ⟨.entries, entries⟩ => .map (entries.map fun (key, i) => (key, .int i))
  | ⟨.element, e⟩ => view.shown e
  | ⟨.elements, items⟩ => .list (items.map view.shown)

end View

structure Exhibit where
  Element : Type
  [isInhabited : Inhabited Element]
  view : View Element
  function : ModelFunction Element
  /-- Whether all fields of its builder can be shown: none is unordered or of an unknown type. -/
  isShown : Bool
  self? : Instance → Option function.Self
  result : function.Result → Value × Instance

attribute [instance] Exhibit.isInhabited

/-- A value that leaves no instance behind. -/
def alone (v : Value) : Value × Instance := (v, .none)

def addExhibit : Exhibit where
  Element := Int
  view := .ints
  function := addFunction Int
  isShown := true
  self? := Instance.signatures?
  result sum := alone (.int sum)

def concatExhibit : Exhibit where
  Element := String
  view := .texts
  function := concatFunction String
  isShown := true
  self? _ := some ()
  result s := alone (.text s)

def checkContainsExhibit : Exhibit where
  Element := String
  view := .texts
  function := checkContainsFunction String
  isShown := false
  self? _ := some ()
  result b := alone (.flag b)

def singletonMapExhibit : Exhibit where
  Element := String
  view := .texts
  function := singletonMapFunction String
  isShown := true
  self? _ := some ()
  result entries := alone (.map (entries.map fun (key, s) => (key, .text s)))

def pickSomeExhibit : Exhibit where
  Element := String
  view := .texts
  function := pickSomeFunction String
  isShown := false
  self? := Instance.hasGen?
  result s := alone (.text s)

def toIterableExhibit : Exhibit where
  Element := Int
  view := .ints
  function := toIterableFunction Int Value.int
  isShown := false
  self? := Instance.hasGen?
  result items := alone (.list items)

def describeExhibit : Exhibit where
  Element := String
  view := .texts
  function := describeFunction String
  isShown := false
  self? := Instance.hasGen?
  result s := alone (.text s)

def pickSecondExhibit : Exhibit where
  Element := Int
  view := .ints
  function := pickSecondFunction Int
  isShown := true
  self? _ := some ()
  result i := alone (.int i)

def lazyAppendExhibit : Exhibit where
  Element := Int
  view := .ints
  function := lazyAppendFunction Int
  isShown := true
  self? _ := some ()
  result items := alone (.list (items.map .int))

def containerExhibit : Exhibit where
  Element := String
  view := .texts
  function := containerFunction String
  isShown := true
  self? _ := some ()
  result c := alone (.record [("item", .text c.item)])

def nameExhibit : Exhibit where
  Element := String
  view := .texts
  function := nameFunction String
  isShown := true
  self? _ := some ()
  result
    | .ok n => alone (.record [("family", .text n.family), ("given", .text n.given)])
    | .error e => alone (.failure e)

def recordExhibit : Exhibit where
  Element := Int
  view := .ints
  function := recordFunction Int
  isShown := true
  self? := Instance.tally?
  result | (total, t) => (.int total, .tally t)

def exhibits : List Exhibit :=
  [addExhibit, concatExhibit, checkContainsExhibit, singletonMapExhibit, pickSomeExhibit,
    toIterableExhibit, describeExhibit, pickSecondExhibit, lazyAppendExhibit, containerExhibit,
    nameExhibit, recordExhibit]

def exhibit? (name : String) : Option Exhibit := exhibits.find? (·.function.builder == name)

/-- What is seen of a run: the builder before and after each setter call, and the outcome. -/
structure Showing where
  states : List String
  outcome : Outcome

namespace Exhibit

variable (e : Exhibit)

/-- The calls of setters that set fields; unknown fields are left out. -/
def calls? (sets : List (String × Value)) :
    Option (List (SetterCall e.Element e.function.params)) :=
  let known := sets.filterMap fun (field, v) =>
    (e.function.params.findFinIdx? (·.1 == field)).map (·, v)
  known.mapM fun (i, v) => (e.view.argument? (e.function.params.get i).2 v).map (⟨i, ·⟩)

def fieldText? (i : Instance) : String × Content e.Element e.function.Self → Option String
  | (name, .datum d) => some (name ++ ": " ++ (e.view.argument d).display)
  | (name, .self _) => some (name ++ ": " ++ i.display)
  | (_, .other) => none

def stateText (c : Source.BuilderCode) (i : Instance)
    (store : Source.Store (Content e.Element e.function.Self)) : String :=
  c.typeName ++ " \x7b " ++ Text.joined ", " (store.filterMap (e.fieldText? i)) ++ " \x7d"

def run? (i : Instance) (sets : List (String × Value)) : Option Showing := do
  let s ← e.self? i
  let calls ← e.calls? sets
  let outcome ← e.function.run? s calls
  let c ← e.function.code?
  -- The builders are those after no call, after the first one, and so on.
  let stores ← (List.range (calls.length + 1)).mapM fun n => e.function.built? c s (calls.take n)
  let states := if e.isShown then stores.map (e.stateText c i) else []
  return ⟨states, outcome.map e.result⟩

end Exhibit

end Buildwright.Gallery
