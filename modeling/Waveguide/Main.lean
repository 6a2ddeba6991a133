import Std.Time
import Waveguide.Binary64
import Waveguide.CommandLine

/-!
The program: runs on the files of the machine, with binary floating point.
-/

namespace Waveguide.Main

def attempt {α : Type} (action : IO α) : IO (Option α) :=
  try
    return some (← action)
  catch _ => return none

def replace (path text : String) : IO Bool := do
  let fresh := Path.join (Path.home path) (".tmp" ++ toString (← IO.monoNanosNow))
  let replaced ← attempt do
    IO.FS.writeFile fresh text
    IO.FS.rename fresh path
  if replaced.isNone then let _ ← attempt (IO.FS.removeFile fresh)
  return replaced.isSome

def files : CommandLine.FileAccess IO where
  read path := attempt (IO.FS.readFile path)
  replace := replace

def time : IO String := do
  return (← Std.Time.PlainDateTime.now).format "uuuu/MM/dd HH:mm"

end Waveguide.Main

open Waveguide in
def main (arguments : List String) : IO UInt32 := do
  let time ← Main.time
  let outcome ← CommandLine.execute (K := Float) Main.files time arguments
  for line in outcome.stderr do IO.eprintln line
  IO.print outcome.stdout
  return UInt32.ofNat outcome.exit
