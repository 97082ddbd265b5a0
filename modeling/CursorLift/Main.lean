import CursorLift.CommandLine.Dump
import CursorLift.Description
import CursorLift.Json.Reader

/-! # The command line

The program dumps the file that its arguments name. The units that its front end loads
are described on standard input, which is read only when a file is to be dumped.
-/

namespace CursorLift

/-- The front end that a description gives; an unreadable one loads nothing. -/
def Frontend.ofDescription (text : String) : Frontend :=
  let json := (Json.parse? text).getD .null
  ⟨.library (Description.exports json), Description.supply json⟩

/-- Writes what a run of the program shows, and gives its exit status. -/
def CommandLine.Performance.emit (performance : CommandLine.Performance) : IO UInt32 := do
  IO.print performance.output
  IO.eprint performance.errors
  match performance.ending with
  | .status code => return code.toUInt32
  | .broke failure =>
    IO.eprintln failure.message
    return 1

end CursorLift

def main (arguments : List String) : IO UInt32 := do
  let description ←
    if CursorLift.CommandLine.loadsUnit arguments then (← IO.getStdin).readToEnd else pure ""
  (CursorLift.CommandLine.perform (.ofDescription description) arguments).emit
