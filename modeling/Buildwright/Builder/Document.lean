import Buildwright.Builder
import Buildwright.Document

/-!
# Callables and builders as documents

Types and signature keys are shown as their texts.
-/

namespace Buildwright

namespace Ty

def document (t : Ty) : Document := .text t.toString

end Ty

def Scope.document (s : Scope) : Document := .text s.text

def ReceiverMode.document : ReceiverMode → Document
  | .ref => .text "ref"
  | .refMut => .text "ref_mut"
  | .owned => .text "owned"

namespace Callable

def kindDocument : CallableKind → Document
  | .instance mode =>
    .record [("kind", .text "instance_method"), ("receiver", mode.document)]
  | .static => .record [("kind", .text "static_method")]
  | .constructor => .record [("kind", .text "constructor")]

def varDocument (v : TypeVar) : Document :=
  .record [("name", .text v.name), ("scope", v.scope.document),
    ("bounds", .list (v.bounds.map Ty.document))]

def document (c : Callable) : Document :=
  .record [
    ("kind", kindDocument c.kind),
    ("name", .text c.name),
    ("owner", .record [
      ("self_ty", c.owner.selfTy.document),
      ("type_vars", .list (c.owner.typeVars.map varDocument))]),
    ("type_vars", .list (c.typeVars.map varDocument)),
    ("params", .list (c.params.map fun p =>
      .record [("name", .text p.name), ("ty", p.ty.document)])),
    ("return_type", c.returns.document),
    ("class_name", .optional .text c.className),
    ("build_method_name", .optional .text c.methodName)]

end Callable

def BuilderVar.document (v : BuilderVar) : Document :=
  .record [("name", .text v.name), ("origin", v.origin.document),
    ("bounds", .list (v.bounds.map Ty.document))]

namespace Builder

def receiverDocument (r : ReceiverSlot) : Document :=
  .record [
    ("mode", r.mode.document),
    ("ty", r.ty.document),
    ("type_vars", .texts r.typeVars),
    ("erased", .list (r.erased.map BuilderVar.document))]

def targetDocument : Target → Document
  | .method name => .record [("kind", .text "method"), ("method", .text name)]
  | .associated owner function =>
    .record [("kind", .text "associated"), ("owner", owner.document), ("function", .text function)]

def document (b : Builder) : Document :=
  .record [
    ("generated_name", .text b.name),
    ("source", .text b.source.text),
    ("type_vars", .list (b.typeVars.map BuilderVar.document)),
    ("receiver", .optional receiverDocument b.receiver),
    ("fields", .list (b.fields.map fun f =>
      .record [("name", .text f.name), ("ty", f.ty.document), ("default", .text f.zero.text)])),
    ("setters", .list (b.setters.map fun s =>
      .record [("name", .text s.name), ("field", .text s.field)])),
    ("terminal_method_name", .text b.terminalName),
    ("terminal", .record [
      ("target", targetDocument b.terminal.target),
      ("args", .texts b.terminal.args),
      ("result_type", b.terminal.result.document)]),
    ("phantom", .texts b.phantom)]

end Builder

end Buildwright
