import Buildwright.Manifest

/-!
# The gallery's manifest
-/

namespace Buildwright.Gallery

def manifestText : String :=
  Text.lines
    ["# Builders for the fixture model in src/model.rs.", "",
      "[generator]", "uses = [\"crate::model::*\", \"std::collections::HashMap\"]",
      "derive_debug = true", "",
      "[[impl]]", "self = \"ConfusingSignatures\"", "",
      "[[impl.fn]]", "name = \"add\"", "receiver = \"&self\"",
      "args = [\"x: i32\", \"y: i32\", \"z: i32\"]", "returns = \"i32\"",
      "call_builder = \x7b class_name = \"NonStaticAdder\" \x7d", "",
      "[[impl.fn]]", "name = \"concat\"", "args = [\"left: String\", \"right: String\"]",
      "returns = \"String\"", "call_builder = \x7b class_name = \"StaticConcater\" \x7d", "",
      "[[impl.fn]]", "name = \"check_contains\"",
      "args = [\"map: HashMap<String, i32>\", \"key: String\", \"value: i32\"]",
      "returns = \"bool\"", "call_builder = \x7b class_name = \"HasGenericsContainsCheck\" \x7d",
      "",
      "[[impl.fn]]", "name = \"singleton_map\"", "args = [\"key: String\", \"value: String\"]",
      "returns = \"HashMap<String, String>\"", "call_builder = \x7b\x7d", "",
      "[[impl.fn]]", "name = \"offset\"", "receiver = \"&self\"", "returns = \"i32\"", "",
      "[[impl]]", "self = \"HasGen<E>\"", "generics = [\"E\"]", "",
      "[[impl.fn]]", "name = \"pick_some\"", "receiver = \"&self\"",
      "args = [\"first: E\", \"second: E\", \"third: E\"]", "returns = \"E\"",
      "call_builder = \x7b\x7d", "",
      "[[impl.fn]]", "name = \"to_iterable\"", "receiver = \"&self\"",
      "generics = [\"F: Into<E>\"]", "args = [\"first: F\", \"second: F\", \"third: F\"]",
      "returns = \"Vec<E>\"", "call_builder = \x7b class_name = \"ThreeInIterableBuilder\" \x7d",
      "",
      "[[impl.fn]]", "name = \"describe\"", "receiver = \"self\"", "args = [\"label: String\"]",
      "returns = \"String\"", "call_builder = \x7b\x7d", "",
      "[[impl.fn]]", "name = \"pick_second\"",
      "args = [\"first: i32\", \"second: i32\", \"third: i32\"]", "returns = \"i32\"",
      "call_builder = \x7b\x7d", "",
      "[[impl.fn]]", "name = \"lazy_append\"", "generics = [\"F\"]",
      "args = [\"all_but_last: Vec<F>\", \"last: F\"]", "returns = \"Vec<F>\"",
      "call_builder = \x7b class_name = \"LazyAppender\", method_name = \"append\" \x7d", "",
      "[[impl]]", "self = \"Container<I>\"", "generics = [\"I\"]", "",
      "[[impl.fn]]", "name = \"new\"", "constructor = true", "args = [\"item: I\"]",
      "call_builder = \x7b\x7d", "",
      "[[impl]]", "self = \"Name\"", "",
      "[[impl.fn]]", "name = \"new\"", "constructor = true",
      "args = [\"family: Option<String>\", \"given: Option<String>\"]",
      "returns = \"Result<Self, NameError>\"", "call_builder = \x7b\x7d", "",
      "[[impl]]", "self = \"Tally\"", "",
      "[[impl.fn]]", "name = \"record\"", "receiver = \"&mut self\"", "args = [\"amount: u32\"]",
      "returns = \"u32\"", "call_builder = \x7b method_name = \"commit\" \x7d"]

def applied (name : String) (args : List TypeExpr) : TypeExpr :=
  .path false [.mk name (args.map .type)]

def stringType : TypeExpr := .name "String"

def i32Type : TypeExpr := .name "i32"

def optionalString : TypeExpr := applied "Option" [stringType]

/-- A static function that gets a builder under the usual names. -/
def declared (name : String) (args : List Parameter) (returns : TypeExpr) : FunctionDecl :=
  { name, receiver := none, generics := [], args, returns := some returns, isConstructor := false
    annotation := some ⟨none, none⟩ }

def signaturesBlock : ImplBlock where
  selfTy := .name "ConfusingSignatures"
  generics := []
  functions := [
    { declared "add" [⟨"x", i32Type⟩, ⟨"y", i32Type⟩, ⟨"z", i32Type⟩] i32Type with
      receiver := some .ref, annotation := some ⟨some "NonStaticAdder", none⟩ },
    { declared "concat" [⟨"left", stringType⟩, ⟨"right", stringType⟩] stringType with
      annotation := some ⟨some "StaticConcater", none⟩ },
    { declared "check_contains"
        [⟨"map", applied "HashMap" [stringType, i32Type]⟩, ⟨"key", stringType⟩,
          ⟨"value", i32Type⟩]
        (.name "bool") with
      annotation := some ⟨some "HasGenericsContainsCheck", none⟩ },
    declared "singleton_map" [⟨"key", stringType⟩, ⟨"value", stringType⟩]
      (applied "HashMap" [stringType, stringType]),
    { declared "offset" [] i32Type with receiver := some .ref, annotation := none }]

def hasGenBlock : ImplBlock where
  selfTy := applied "HasGen" [.name "E"]
  generics := [⟨"E", []⟩]
  functions := [
    { declared "pick_some" [⟨"first", .name "E"⟩, ⟨"second", .name "E"⟩, ⟨"third", .name "E"⟩]
        (.name "E") with
      receiver := some .ref },
    { declared "to_iterable" [⟨"first", .name "F"⟩, ⟨"second", .name "F"⟩, ⟨"third", .name "F"⟩]
        (applied "Vec" [.name "E"]) with
      receiver := some .ref
      generics := [⟨"F", [applied "Into" [.name "E"]]⟩]
      annotation := some ⟨some "ThreeInIterableBuilder", none⟩ },
    { declared "describe" [⟨"label", stringType⟩] stringType with receiver := some .owned },
    declared "pick_second" [⟨"first", i32Type⟩, ⟨"second", i32Type⟩, ⟨"third", i32Type⟩] i32Type,
    { declared "lazy_append" [⟨"all_but_last", applied "Vec" [.name "F"]⟩, ⟨"last", .name "F"⟩]
        (applied "Vec" [.name "F"]) with
      generics := [⟨"F", []⟩], annotation := some ⟨some "LazyAppender", some "append"⟩ }]

def containerBlock : ImplBlock where
  selfTy := applied "Container" [.name "I"]
  generics := [⟨"I", []⟩]
  functions := [
    { declared "new" [⟨"item", .name "I"⟩] .unit with returns := none, isConstructor := true }]

def nameBlock : ImplBlock where
  selfTy := .name "Name"
  generics := []
  functions := [
    { declared "new" [⟨"family", optionalString⟩, ⟨"given", optionalString⟩]
        (applied "Result" [.name "Self", .name "NameError"]) with
      isConstructor := true }]

def tallyBlock : ImplBlock where
  selfTy := .name "Tally"
  generics := []
  functions := [
    { declared "record" [⟨"amount", .name "u32"⟩] (.name "u32") with
      receiver := some .refMut, annotation := some ⟨none, some "commit"⟩ }]

def manifest : Manifest where
  generator := {
    file := "builders.rs", uses := ["crate::model::*", "std::collections::HashMap"]
    deriveDebug := true }
  impls := [signaturesBlock, hasGenBlock, containerBlock, nameBlock, tallyBlock]

end Buildwright.Gallery
