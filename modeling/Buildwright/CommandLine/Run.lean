import Buildwright.CommandLine.Command
import Buildwright.Manifest.ManifestFile
import Buildwright.Report.Explanation
import Buildwright.Report.Generation
import Buildwright.Report.Listing

/-!
# Running commands
-/

namespace Buildwright.CommandLine

structure Result where
  exitCode : Nat
  results : String
  problems : String
deriving Repr, DecidableEq, Inhabited

namespace Result

def ofPage (exitCode : Nat) (p : Page) : Result := ⟨exitCode, p.text .results, p.text .problems⟩

/-- A failure, each cause on a line of its own. -/
def failure (messages : List String) : Result :=
  ⟨1, "", Text.lines (messages.map ("error: " ++ ·))⟩

def manifestFailure (e : ManifestFault) : Result :=
  failure (e.message :: e.cause?.toList ++ e.help?.toList)

end Result

def versionText : String := "callbuilder 0.1.0"

def usage : String := "usage: callbuilder [-v|-q] <generate|check|list|explain|completions> [...]"

/-- Mistakes have an exit code of their own. -/
def Stop.result : Stop → Result
  | .help => ⟨0, usage ++ "\n", ""⟩
  | .version => ⟨0, versionText ++ "\n", ""⟩
  | .mistake => ⟨2, "", usage ++ "\n"⟩

variable {m : Type → Type} [Monad m] [Disk m]

def withManifest (config : Path) (act : ManifestFile → m Result) : m Result := do
  match ← ManifestFile.load config with
  | .error e => return .manifestFailure e
  | .ok file => act file

namespace Command

def checkResult (file : ManifestFile) : Result :=
  let v := file.manifest.check file.path.text
  .ofPage (if v.isValid then 0 else 1) v.page

def explainResult (name : String) (asJson : Bool) (file : ManifestFile) : Result :=
  match file.manifest.explain name with
  | .error e => .failure [e.message]
  | .ok b => .ofPage 0 (if asJson then Page.line b.document.pretty else b.page)

def generateResult (output : Option Path) (isDryRun : Bool) (file : ManifestFile) : m Result := do
  match ← file.manifest.generate (output.getD file.dir) isDryRun with
  | .error e => return .failure (e.message :: e.causes)
  | .ok g => return .ofPage (if g.hasErrors then 1 else 0) g.page

/-- Runs a command. Completion scripts are left to the shells. -/
def run : Command → m Result
  | .generate config output isDryRun => withManifest config (generateResult output isDryRun)
  | .check config => withManifest config fun file => return checkResult file
  | .list config => withManifest config fun file => return .ofPage 0 file.manifest.listing.page
  | .explain name config asJson =>
    withManifest config fun file => return explainResult name asJson file
  | .completions _ => return ⟨0, "", ""⟩

end Command

def run (args : List String) : m Result :=
  match Command.ofArguments args with
  | .error stop => return stop.result
  | .ok c => c.run

end Buildwright.CommandLine
