/-!
# Switches

The arguments that start with a dash: how each is written, and what may follow it.
-/

namespace Buildwright.CommandLine

inductive Switch where
  | verbose
  | quiet
  | config
  | output
  | dryRun
  | json
  | help
  | version
deriving Repr, DecidableEq, Inhabited

namespace Switch

def long : Switch → String
  | .verbose => "verbose"
  | .quiet => "quiet"
  | .config => "config"
  | .output => "output"
  | .dryRun => "dry-run"
  | .json => "json"
  | .help => "help"
  | .version => "version"

def short? : Switch → Option Char
  | .verbose => some 'v'
  | .quiet => some 'q'
  | .config => some 'c'
  | .output => some 'o'
  | .help => some 'h'
  | .version => some 'V'
  | _ => none

def takesValue : Switch → Bool
  | .config => true
  | .output => true
  | _ => false

def repeats (s : Switch) : Bool := s == .verbose

end Switch

inductive Argument where
  | word (text : String)
  /-- Two dashes: only words follow. -/
  | wordsOnly
  | long (name : String) (value : Option String)
  | short (cluster : List Char)
deriving Repr, DecidableEq, Inhabited

namespace Argument

/-- The part before the first equals sign, and the part behind it if there is one. -/
def splitValue (cs : List Char) : String × Option String :=
  let name := String.ofList (cs.takeWhile (· ≠ '='))
  match cs.dropWhile (· ≠ '=') with
  | [] => (name, none)
  | _ :: value => (name, some (String.ofList value))

/-- A dash alone is a word. -/
def ofText (s : String) : Argument :=
  match s.toList with
  | ['-', '-'] => .wordsOnly
  | '-' :: '-' :: rest =>
    let (name, value) := splitValue rest
    .long name value
  | ['-'] => .word s
  | '-' :: rest => .short rest
  | _ => .word s

def isWord (s : String) : Bool :=
  match ofText s with
  | .word _ => true
  | _ => false

end Argument

end Buildwright.CommandLine
