import Buildwright.CommandLine.Run

/-!
# The program

The command line over the files of the machine.
-/

namespace Buildwright

def succeeds (act : IO Unit) : IO Bool := do
  try
    act
    return true
  catch _ =>
    return false

instance : Disk IO where
  read? p := do
    try
      return some (← IO.FS.readFile p.text)
    catch _ =>
      return none
  isTaken p := succeeds (discard (IO.FS.realPath p.text))
  makeDirectories p := if p.text.isEmpty then pure true else succeeds (IO.FS.createDirAll p.text)
  put p content := succeeds (IO.FS.writeFile p.text content)

end Buildwright

def main (args : List String) : IO UInt32 := do
  let result : Buildwright.CommandLine.Result ← Buildwright.CommandLine.run args
  IO.print result.results
  IO.eprint result.problems
  return result.exitCode.toUInt32
