import PatternServer.Command.Run

/-!
# The program

Reads the files and the environment that a command line needs, runs it and prints the outcome.
Worker processes are not started here, so patterns are checked word by word only, and a server has
no channel to be served on.
-/

namespace PatternServer

set_option autoImplicit false

open PatternServer.Files PatternServer.Settings

/-- The content of a file. One that cannot be read counts as missing. -/
def readFile (p : Path) : IO (Except FileError (List UInt8)) := do
  try
    return .ok (← IO.FS.readBinFile p.toText).toList
  catch _ => return .error .missing

def readEnvironment : IO Environment := do
  let host ← IO.getEnv "STRUDEL_HOST"
  let stateFile ← IO.getEnv "STRUDEL_ENGINE_STATE"
  let logLevel ← IO.getEnv "STRUDEL_LSP_LOG_LEVEL"
  return { host := host.getD "", stateFile := stateFile.getD "", logLevel := logLevel.getD "" }

def runProgram (args : List String) : IO UInt32 := do
  let files ← (Command.neededFiles args).mapM fun p => do return (p, ← readFile p)
  let home ← IO.getEnv "HOME"
  let surroundings : Command.Surroundings :=
    { readFile := fun p => (files.lookup p).getD (.error .missing)
      environment := ← readEnvironment
      homes := ⟨(home.getD "/").toList, fun _ => none⟩ }
  let parser (s : Settings) := Command.unavailableParser s "no worker processes"
  let outcome := Command.run surroundings parser args
  IO.print outcome.stdout
  IO.eprint outcome.stderr
  if outcome.launch.isSome then
    IO.eprintln "strudel-lsp: there is no channel to serve on"
    return 1
  if outcome.crash.isSome then IO.eprintln "strudel-lsp: the input cannot be read"
  return outcome.exit.toUInt32

end PatternServer

def main (args : List String) : IO UInt32 :=
  PatternServer.runProgram args
