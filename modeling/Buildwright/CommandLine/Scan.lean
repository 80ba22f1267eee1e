import Buildwright.CommandLine.Switch

/-!
# Scanning arguments

The arguments of one level, that is of the program or of one of its commands, are read from left to
right. Reading stops at the first mistake, and at a wish for help or for the version.
-/

namespace Buildwright.CommandLine

inductive Stop where
  | help
  | version
  | mistake
deriving Repr, DecidableEq, Inhabited

structure Level where
  switches : List Switch
  /-- The test for the one word that a level may have. -/
  word : Option (String → Bool)
  /-- Whether a word ends the level. -/
  endsAtWord : Bool

structure Given where
  switches : List (Switch × String)
  words : List String
deriving Repr, DecidableEq, Inhabited

namespace Given

def none : Given := ⟨[], []⟩

def has (g : Given) (s : Switch) : Bool := g.switches.any (·.1 == s)

def value? (g : Given) (s : Switch) : Option String := g.switches.lookup s

/-- A switch with its value; one without a value has the empty text. -/
def addSwitch (g : Given) (s : Switch) (value : String) : Except Stop Given :=
  match s with
  | .help => .error .help
  | .version => .error .version
  | s =>
    if (g.has s && !s.repeats) || (s.takesValue && value.isEmpty) then .error .mistake
    else .ok { g with switches := g.switches ++ [(s, value)] }

def addWord (g : Given) (level : Level) (text : String) : Except Stop Given :=
  match level.word, g.words with
  | some test, [] => if test text then .ok { g with words := [text] } else .error .mistake
  | _, _ => .error .mistake

def addWords (g : Given) (level : Level) : List String → Except Stop Given
  | [] => .ok g
  | text :: rest =>
    match g.addWord level text with
    | .ok g => g.addWords level rest
    | .error stop => .error stop

/-- The short switches behind one dash. The last one may still want its value. -/
def addCluster (g : Given) (level : Level) : List Char → Except Stop (Given × Option Switch)
  | [] => .ok (g, .none)
  | c :: rest =>
    match level.switches.find? (·.short? == some c) with
    | .none => .error .mistake
    | some s =>
      if s.takesValue then
        match rest with
        | [] => .ok (g, some s)
        | '=' :: value => (g.addSwitch s (String.ofList value)).map (·, .none)
        | value => (g.addSwitch s (String.ofList value)).map (·, .none)
      else
        match g.addSwitch s "" with
        | .ok g => g.addCluster level rest
        | .error stop => .error stop

def addLong (g : Given) (level : Level) (name : String) (value : Option String) :
    Except Stop (Given × Option Switch) :=
  match level.switches.find? (·.long == name) with
  | .none => .error .mistake
  | some s =>
    match s.takesValue, value with
    | true, some value => (g.addSwitch s value).map (·, .none)
    | true, .none => .ok (g, some s)
    | false, some _ => .error .mistake
    | false, .none => (g.addSwitch s "").map (·, .none)

def addArgument (g : Given) (level : Level) : Argument → Except Stop (Given × Option Switch)
  | .long name value => g.addLong level name value
  | .short cluster => g.addCluster level cluster
  | _ => .ok (g, .none)

end Given

/-- Reads a level, and gives back the arguments that do not belong to it. -/
def scan (level : Level) (g : Given) : List String → Except Stop (Given × List String)
  | [] => .ok (g, [])
  | text :: rest =>
    match Argument.ofText text with
    | .wordsOnly => (g.addWords level rest).map (·, [])
    | .word _ =>
      if level.endsAtWord then .ok (g, text :: rest)
      else
        match g.addWord level text with
        | .ok g => scan level g rest
        | .error stop => .error stop
    | argument =>
      match g.addArgument level argument, rest with
      | .error stop, _ => .error stop
      | .ok (g, .none), rest => scan level g rest
      | .ok (_, some _), [] => .error .mistake
      | .ok (g, some s), value :: rest =>
        if Argument.isWord value then
          match g.addSwitch s value with
          | .ok g => scan level g rest
          | .error stop => .error stop
        else
          .error .mistake

end Buildwright.CommandLine
