import Criteria.Showcase.Detailed
import Criteria.Showcase.Filter
import Criteria.Showcase.Quickstart
import Criteria.Showcase.Shared

/-!
The command line: it runs the showcase that its argument names.
-/
namespace Criteria

namespace Showcase

def catalog (explain : String → String) : List (String × Run) := [
  ("quickstart", Quickstart.run explain),
  ("report", Detailed.run explain),
  ("shared", Shared.run),
  ("filter", Filter.run explain)]

end Showcase

namespace Main

def complaint (_ : String) : String := "it cannot be read"

def printLine (start : Nat) : Showcase.Line → IO Unit
  | .plain text => IO.println text
  | .timed text => do
    let now ← IO.monoNanosNow
    IO.println (text ++ toString (now - start) ++ "ns")

def present (run : Showcase.Run) : IO UInt32 := do
  let start ← IO.monoNanosNow
  for record in run.records do
    IO.eprintln record.text
  for line in run.printed do
    printLine start line
  match run.failure with
  | none => return 0
  | some message =>
    IO.eprintln message
    return 1

end Main

end Criteria

def main (arguments : List String) : IO UInt32 := do
  let showcases := Criteria.Showcase.catalog Criteria.Main.complaint
  match arguments.head?.bind fun name => List.lookup name showcases with
  | some run => Criteria.Main.present run
  | none =>
    IO.eprintln ("showcases: " ++ String.intercalate ", " (showcases.map Prod.fst))
    return 2
