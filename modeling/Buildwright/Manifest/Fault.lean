import Buildwright.Manifest.Decoding
import Buildwright.Manifest.Place

/-!
# What can be wrong with a manifest
-/

namespace Buildwright

open Toml (Span)

inductive ManifestFault where
  | unreadable (path : String)
  /-- No configuration text. -/
  | noSyntax
  /-- Configuration text that describes no manifest. -/
  | undecodable (fault : Toml.Fault TypeFault)
  | duplicateArgument (name function : String) (first second : Option Span)
  | shadowedGeneric (name function owner : String) (place : Option Span)
  | invalid (message : String) (place : Option Span)
  | reservedKeyword (name context : String) (place : Option Span)
  | invalidIdentifier (name context reason : String) (place : Option Span)
deriving Repr, DecidableEq

namespace ManifestFault

def message : ManifestFault → String
  | .unreadable path => s!"failed to read '{path}'"
  | .noSyntax => "failed to parse callbuilder.toml"
  | .undecodable _ => "failed to parse callbuilder.toml"
  | .duplicateArgument name function _ _ => s!"duplicate argument '{name}' in '{function}'"
  | .shadowedGeneric name function owner _ =>
    s!"generic parameter '{name}' of '{function}' shadows a generic parameter of '{owner}'"
  | .invalid message _ => message
  | .reservedKeyword name _ _ => s!"'{name}' is a Rust reserved keyword"
  | .invalidIdentifier name context _ _ => s!"invalid {context} name '{name}'"

def code? : ManifestFault → Option String
  | .noSyntax => some "callbuilder::parse_error"
  | .undecodable _ => some "callbuilder::parse_error"
  | .duplicateArgument .. => some "callbuilder::duplicate_argument"
  | .shadowedGeneric .. => some "callbuilder::shadowed_generic"
  | .invalid .. => some "callbuilder::validation_error"
  | _ => none

def help? : ManifestFault → Option String
  | .unreadable _ => some "pass the manifest path with '--config <path>'"
  | .duplicateArgument .. =>
    some "argument names must be unique within one function; rename one of them"
  | .shadowedGeneric .. =>
    some "Rust does not allow a function to redeclare its impl's generic parameters"
  | .reservedKeyword name _ _ =>
    some s!"rename '{name}' to something else, e.g. '{name}_value'"
  | .invalidIdentifier _ _ reason _ =>
    some (reason ++ ". Use only letters, numbers, and underscores, " ++
      "starting with a letter or underscore.")
  | _ => none

def labels : ManifestFault → List (String × Span)
  | .undecodable fault => (fault.place.map fun p => ("parse error here", p)).toList
  | .duplicateArgument _ _ first second =>
    (first.map fun p => ("first declared here", p)).toList ++
      (second.map fun p => ("declared again here", p)).toList
  | .shadowedGeneric _ _ _ place => (place.map fun p => ("shadowing parameter", p)).toList
  | .invalid message place => (place.map fun p => (message, p)).toList
  | .reservedKeyword _ _ place => (place.map fun p => ("reserved keyword used here", p)).toList
  | .invalidIdentifier _ _ _ place => (place.map fun p => ("invalid identifier", p)).toList
  | _ => []

/-- What lies behind a text that describes no manifest. -/
def cause? : ManifestFault → Option String
  | .noSyntax => some "toml syntax"
  | .undecodable fault => some (fault.cause.message TypeFault.message)
  | _ => none

end ManifestFault

end Buildwright
