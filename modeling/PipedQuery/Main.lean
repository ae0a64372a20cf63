import PipedQuery.Shell.Console

/-!
The program. It reads lines, hands them to the console and prints what comes back. It has no
network of its own, so every cluster is out of reach.
-/

set_option autoImplicit false
set_option relaxedAutoImplicit false

namespace PipedQuery.Shell

def offline : Transport :=
  fun _ ↦ .unreachable

/-- A time in milliseconds with three places. -/
def milliseconds (nanoseconds : Nat) : String :=
  let microseconds := (nanoseconds + 500) / 1000
  let places := toString (microseconds % 1000 + 1000)
  toString (microseconds / 1000) ++ "." ++ String.ofList (places.toList.drop 1) ++ "ms"

def write (coloured : Bool) (nanoseconds : Nat) : Output → IO Unit
  | .line text => IO.println text
  | .errorLine text => IO.eprintln text
  | .prompt text => do
    IO.print text
    (← IO.getStdout).flush
  | .elapsed => IO.println (Style.faint.paint coloured ("Time: " ++ milliseconds nanoseconds))

/-- One prompt after another, to the end of the input or of the shell. -/
partial def converse (console : Console) : IO Unit := do
  write console.coloured 0 console.prompt
  let line ← (← IO.getStdin).getLine
  if line.isEmpty then IO.println "Goodbye."
  else
    let started ← IO.monoNanosNow
    let turn := console.turn offline (Text.typed ((linesOf line).headD ""))
    let ended ← IO.monoNanosNow
    turn.output.forM (write console.coloured (ended - started))
    unless turn.ends do converse turn.console

/-- The text of the startup file in the home directory, if there is one. -/
def startupFile : IO (Option String) := do
  match ← IO.getEnv "HOME" with
  | none => return none
  | some home =>
    try return some (← IO.FS.readFile (home ++ "/.pplrc"))
    catch _ => return none

end PipedQuery.Shell

open PipedQuery.Shell in
def main (arguments : List String) : IO UInt32 := do
  let coloured ← (← IO.getStdout).isTty
  match Options.parse {} arguments with
  | .misuse =>
    IO.eprintln "Usage: ppl [OPTIONS]"
    return 2
  | .version =>
    IO.println ("ppl " ++ versionNumber)
    return 0
  | .help =>
    usage.forM IO.println
    return 0
  | .start options =>
    match begin options coloured with
    | .error output =>
      output.forM (write coloured 0)
      return 1
    | .ok (console, opening) =>
      opening.forM (write coloured 0)
      let started := console.startup offline (linesOf ((← startupFile).getD ""))
      started.output.forM (write coloured 0)
      converse started.console
      return 0
