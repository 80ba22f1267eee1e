import Buildwright.Builder.Synthesis
import Buildwright.Declaration.Extraction
import Buildwright.Report.Page

/-!
# Listings

A listing shows the annotated declarations of a manifest as they are written, each with the name of
its builder or the reason why it has none.
-/

namespace Buildwright

structure Listed where
  /-- How the function is called. -/
  kind : String
  signature : SignatureKey
  builder : Except GenerateFault String

structure Listing where
  declarations : List Listed
  /-- The number of functions, annotated or not. -/
  functionCount : Nat

namespace FunctionDecl

/-- The word for how the function is called: a method is known by its receiver. -/
def kindText (f : FunctionDecl) : String :=
  if f.isConstructor then "constructor"
  else
    match f.receiver with
    | some mode => mode.text
    | none => "static"

end FunctionDecl

def Declaration.listed (d : Declaration) : Listed :=
  ⟨d.function.kindText, d.signature, d.extract.map Callable.builderName⟩

def Manifest.listing (m : Manifest) : Listing :=
  ⟨m.annotated.map Declaration.listed, m.functionCount⟩

namespace Listed

def outcomeText (l : Listed) : String :=
  match l.builder with
  | .ok name => name
  | .error e => "! " ++ e.message

def text (width : Nat) (l : Listed) : String :=
  l.kind ++ Text.repeated (width - l.kind.length) " " ++ "  " ++ l.signature.text ++ "  => " ++
    l.outcomeText

end Listed

namespace Listing

def width (l : Listing) : Nat :=
  (l.declarations.map fun d => d.kind.length).foldl max 0

def page (l : Listing) : Page :=
  let functions := Text.counted l.functionCount "function"
  match l.declarations with
  | [] => Page.line s!"No annotated declarations ({functions} declared)"
  | declarations =>
    Page.heading s!"Annotated declarations ({declarations.length} of {functions})" ++
      declarations.flatMap fun d => Page.item (d.text l.width)

end Listing

end Buildwright
