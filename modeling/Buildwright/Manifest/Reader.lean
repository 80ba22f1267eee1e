import Buildwright.Manifest.Validation
import Buildwright.Toml.Reader

/-!
# Reading manifests
-/

namespace Buildwright.Manifest

def read (source : String) : Except ManifestFault Manifest := do
  match Toml.read source with
  | none => throw .noSyntax
  | some node =>
    let m ← (decode node).mapError .undecodable
    validate source m
    return m

end Buildwright.Manifest
