import Buildwright.Manifest
import Buildwright.Toml.Decoder

/-!
# Manifests from configuration values
-/

namespace Buildwright.Manifest

open Toml Toml.Decoder

def generatorFields : List (Toml.Decoder.Field TypeFault GeneratorConfig) :=
  [field "file" .defaulted text fun s c => { c with file := s },
    field "uses" .defaulted (list text) fun ss c => { c with uses := ss },
    field "derive_debug" .defaulted boolean fun b c => { c with deriveDebug := b }]

def annotationFields : List (Toml.Decoder.Field TypeFault Annotation) :=
  [field "class_name" .optional (optional text) fun s a => { a with className := s },
    field "method_name" .optional (optional text) fun s a => { a with methodName := s }]

def receivers : List (String × ReceiverMode) :=
  [ReceiverMode.ref, .refMut, .owned].map fun mode => (mode.text, mode)

def functionFields : List (Toml.Decoder.Field TypeFault FunctionDecl) :=
  [field "name" .required text fun s f => { f with name := s },
    field "receiver" .optional (optional (variant receivers)) fun r f => { f with receiver := r },
    field "generics" .defaulted (list (textAs TypeParam.read))
      fun gs f => { f with generics := gs },
    field "args" .defaulted (list (textAs Parameter.read)) fun ps f => { f with args := ps },
    field "returns" .optional (optional (textAs TypeExpr.read)) fun t f => { f with returns := t },
    field "constructor" .defaulted boolean fun b f => { f with isConstructor := b },
    field "call_builder" .optional
      (optional (record "CallBuilderAttr" annotationFields true ⟨none, none⟩))
      fun a f => { f with annotation := a }]

def functionDecl : Decoder TypeFault FunctionDecl :=
  record "FnDecl" functionFields true ⟨"", none, [], [], none, false, none⟩

def blockFields : List (Toml.Decoder.Field TypeFault ImplBlock) :=
  [field "self" .required (textAs TypeExpr.read) fun t b => { b with selfTy := t },
    field "generics" .defaulted (list (textAs TypeParam.read))
      fun gs b => { b with generics := gs },
    field "fn" .defaulted (list functionDecl) fun fs b => { b with functions := fs }]

def implBlock : Decoder TypeFault ImplBlock :=
  record "ImplBlock" blockFields true ⟨.unit, [], []⟩

def manifestFields : List (Toml.Decoder.Field TypeFault Manifest) :=
  [field "generator" .defaulted (record "GeneratorConfig" generatorFields true .default)
      fun c m => { m with generator := c },
    field "impl" .defaulted (list implBlock) fun bs m => { m with impls := bs }]

/-- A manifest; tables that it does not know are left to others. -/
def decode : Decoder TypeFault Manifest :=
  record "Manifest" manifestFields false ⟨.default, []⟩

end Buildwright.Manifest
