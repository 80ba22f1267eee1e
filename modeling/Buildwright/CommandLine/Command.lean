import Buildwright.CommandLine.Scan
import Buildwright.Files.Path

/-!
# Commands

What the program can be asked to do.
-/

namespace Buildwright.CommandLine

inductive Verb where
  | generate
  | check
  | list
  | explain
  | completions
deriving Repr, DecidableEq, Inhabited

namespace Verb

def all : List Verb := [.generate, .check, .list, .explain, .completions]

def name : Verb → String
  | .generate => "generate"
  | .check => "check"
  | .list => "list"
  | .explain => "explain"
  | .completions => "completions"

def ofName? (s : String) : Option Verb := all.find? (·.name == s)

end Verb

def shells : List String := ["bash", "elvish", "fish", "powershell", "zsh"]

def commonSwitches : List Switch := [.verbose, .quiet, .help]

def topLevel : Level := ⟨.version :: commonSwitches, none, true⟩

def Verb.level : Verb → Level
  | .generate => ⟨[.config, .output, .dryRun] ++ commonSwitches, none, false⟩
  | .check => ⟨.config :: commonSwitches, none, false⟩
  | .list => ⟨.config :: commonSwitches, none, false⟩
  | .explain => ⟨[.config, .json] ++ commonSwitches, some fun _ => true, false⟩
  | .completions => ⟨commonSwitches, some shells.contains, false⟩

inductive Command where
  | generate (config : Path) (output : Option Path) (isDryRun : Bool)
  | check (config : Path)
  | list (config : Path)
  | explain (name : String) (config : Path) (asJson : Bool)
  | completions (shell : String)
deriving Repr, DecidableEq, Inhabited

def defaultConfig : String := "callbuilder.toml"

namespace Given

def config (g : Given) : Path := ⟨(g.value? .config).getD defaultConfig⟩

/-- No level is both verbose and quiet. -/
def isConsistent (g : Given) : Bool := !(g.has .verbose && g.has .quiet)

def command? (g : Given) : Verb → Option Command
  | .generate => some (.generate g.config ((g.value? .output).map Path.mk) (g.has .dryRun))
  | .check => some (.check g.config)
  | .list => some (.list g.config)
  | .explain => g.words.head?.map fun name => .explain name g.config (g.has .json)
  | .completions => g.words.head?.map .completions

end Given

/-- Help can be asked for one verb, or for help itself. -/
def helpStop : List String → Stop
  | [] => .help
  | [topic] => if topic == "help" || (Verb.ofName? topic).isSome then .help else .mistake
  | _ => .mistake

namespace Command

/-- The command of a verb with the arguments behind it. -/
def ofVerb (verb : Verb) (args : List String) : Except Stop Command :=
  match scan verb.level Given.none args with
  | .error stop => .error stop
  | .ok (g, _) =>
    match g.command? verb with
    | some c => if g.isConsistent then .ok c else .error .mistake
    | none => .error .mistake

def ofArguments (args : List String) : Except Stop Command :=
  match scan topLevel Given.none args with
  | .error stop => .error stop
  | .ok (_, []) => .error .mistake
  | .ok (g, first :: rest) =>
    if first == "help" then .error (helpStop rest)
    else
      match Verb.ofName? first with
      | none => .error .mistake
      | some verb =>
        match ofVerb verb rest with
        | .error stop => .error stop
        | .ok c => if g.isConsistent then .ok c else .error .mistake

end Command

end Buildwright.CommandLine
