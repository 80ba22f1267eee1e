import Buildwright.Builder.Document
import Buildwright.Pipeline.Phase
import Buildwright.Report.Page

/-!
# Explanations

One builder in full, found by its name or by the signature that it is made for.
-/

namespace Buildwright

structure UnknownBuilder where
  name : String
  available : List String
  /-- The number of errors that may be why. -/
  errors : Nat
deriving Repr, DecidableEq, Inhabited

def UnknownBuilder.message (u : UnknownBuilder) : String :=
  s!"no builder named '{u.name}'" ++
    (match u.available with
      | [] => ""
      | names => " (available: " ++ Text.joined ", " names ++ ")") ++
    if u.errors == 0 then ""
    else s!"; {u.errors} declaration(s) failed, run `callbuilder check` for details"

/-- Names come before signatures. -/
def Compilation.find? (c : Compilation) (name : String) : Option Builder :=
  (c.builder? name).or (c.builders.find? (·.source.text == name))

def Manifest.explain (m : Manifest) (name : String) : Except UnknownBuilder Builder :=
  let c := Compilation.ofManifest m
  match c.find? name with
  | some b => .ok b
  | none => .error ⟨name, c.builders.map (·.name), c.errors.length⟩

namespace BuilderVar

def text (v : BuilderVar) : String :=
  match v.bounds with
  | [] => v.name
  | bounds => v.name ++ ": " ++ Text.joined " + " (bounds.map Ty.toString)

end BuilderVar

def ZeroValue.display : ZeroValue → String
  | .integer => "0"
  | .float => "0.0"
  | .bool => "false"
  | .char => "'\\0'"
  | .absent => "None"
  | .default => "default"

namespace Builder

def receiverEntry (r : ReceiverSlot) : Page :=
  Page.entry "Receiver" s!"{r.ty.toString} ({r.mode.text})"

/-- Items under a heading, after a blank line; no items, no heading. -/
def varSection (name : String) : List String → Page
  | [] => []
  | items => Page.blank ++ Page.heading name ++ items.flatMap Page.item

def setterText (b : Builder) (f : Field) : String :=
  match b.setters.find? (·.field == f.name) with
  | some s => s.name
  | none => "-"

def fieldText (b : Builder) (f : Field) : String :=
  s!"{f.name}: {f.ty.toString} = {f.zero.display}, set by {b.setterText f}"

def callText (t : Terminal) : String :=
  let args := Text.joined ", " t.args
  match t.target with
  | .method name => s!"receiver.{name}({args})"
  | .associated owner function =>
    if owner.hasArgs then s!"<{owner.toString}>::{function}({args})"
    else s!"{owner.toString}::{function}({args})"

def page (b : Builder) : Page :=
  Page.title b.name ++ Page.entry "Source" b.source.text ++
    b.receiver.toList.flatMap receiverEntry ++
    varSection "Type variables"
      (b.typeVars.map fun v => s!"{v.text} (from {v.origin.text})") ++
    varSection "Erased receiver variables"
      ((b.receiver.toList.flatMap (·.erased)).map BuilderVar.text) ++
    Page.blank ++ Page.heading "Fields" ++
    (b.fields.flatMap fun f => Page.item (b.fieldText f)) ++
    Page.blank ++
    Page.entry "Terminal" s!"{b.terminalName}() -> {b.terminal.result.toString}" ++
    Page.entry "Calls" (callText b.terminal) ++
    if b.phantom.isEmpty then [] else Page.entry "Phantom" (Text.joined ", " b.phantom)

end Builder

end Buildwright
