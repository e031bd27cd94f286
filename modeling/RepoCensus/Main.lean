import RepoCensus.CommandLine.Arguments
import RepoCensus.Display.Basic
import RepoCensus.World.Journal
import RepoCensus.World.Script

/-!
# The command line

Reads a script from the first line of standard input, which plays the part of the service, and runs the
command that the arguments ask for. The log and errors go to standard error, all else to standard
output.
-/

namespace RepoCensus.CommandLine

/-- How often a request waits for a permit at most. -/
def mostWaits : Nat := 100000

/-- What a command leaves behind, and the entries of its log. -/
def rehearse (env : Environment) (args : List String) (script : Json) :
    Result Float × List (Level × String) :=
  let start : ServiceWorld (Rehearsal Float Reply) Float :=
    World.start (Script.rehearsalOf script (Script.routesOf script)) (Registry.empty 0)
  let (result, world) := runArguments Script.service [] env mostWaits Script.mostRoom args start
  let least := ((Command.ofArguments? args).map logLevel).getD .warning
  (result, Journal.entries least (Journal.after 0 world.journal))

def print (result : Result Float) (log : List (Level × String)) : IO Unit := do
  for (level, text) in log do
    IO.eprintln (level.name ++ " " ++ text)
  IO.print (result.document.getD "")
  for shown in result.shown do
    if Display.isError shown then IO.eprintln (Display.plainText shown)
    else IO.println (Display.plainText shown)

end RepoCensus.CommandLine

def main (args : List String) : IO UInt32 := do
  let env : RepoCensus.Environment := ⟨← IO.getEnv "GITHUB_TOKEN", ← IO.getEnv "GITHUB_API_URL"⟩
  let line ← (← IO.getStdin).getLine
  let script := (RepoCensus.Json.ofText? line.toList).getD (.obj [])
  let (result, log) := RepoCensus.CommandLine.rehearse env args script
  RepoCensus.CommandLine.print result log
  return UInt32.ofNat result.exitCode
