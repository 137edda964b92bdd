import BranchPolicy.CommandLine.Parser
import BranchPolicy.CommandLine.Session
import BranchPolicy.Yaml.ConfigFile

/-!
# The program

Reads the variables and the config file that a command line needs, runs it and writes what it
wrote.

* `main` — the program; its status is 0, 1, or 2 for a wrong command line.
-/

namespace BranchPolicy

/-- The contents of a file, `none` if there is no file of that name. -/
def readFile? (path : String) : IO (Option String) := do
  try
    return some (← IO.FS.readFile path)
  catch _ =>
    return none

/-- The environment variables of the inputs. -/
def readEnvironment : IO Environment := do
  let values ← InputName.all.mapM fun input => do
    let name := variableName input.text
    return (name, (← IO.getEnv (String.ofList name)).map String.toList)
  return fun name => (values.lookup name).join

/-- The config file that the command of a command line reads. -/
def configPath? (parser : CommandParser) (arguments : List Text) : Option Text :=
  (parser.parse arguments).toOption.bind (·.command.configFile?)

/-- How a stream of the program shows a text. -/
def displayOf (stream : IO.FS.Stream) : IO Display := do
  return if ← stream.isTty then .terminal else .piped

/-- Writes a transcript to the two streams and the output file. -/
def writeTranscript (outputFile : Option String) (t : Transcript) : IO Unit := do
  IO.print t.out
  IO.eprint t.err
  match outputFile, t.outputFile with
  | some path, some text =>
    let handle ← IO.FS.Handle.mk path .append
    handle.putStr text
  | _, _ => return ()

/-- Runs a command line and gives its status. -/
def runProgram (arguments : List Text) : IO UInt32 := do
  let outputFile := (← IO.getEnv "GITHUB_OUTPUT").filter (!·.isEmpty)
  let contents ← match configPath? .standard arguments with
    | some path => readFile? (String.ofList path)
    | none => pure none
  let host : Host :=
    { environment := ← readEnvironment
      file? := fun _ => contents.map String.toList
      readConfig := ConfigFile.parse
      hasOutputFile := outputFile.isSome
      out := ← displayOf (← IO.getStdout)
      err := ← displayOf (← IO.getStderr) }
  match CommandLine.run .standard arguments host with
  | .error e =>
    IO.eprintln ("Error: " ++ e.message)
    return 2
  | .ok (t, ending) =>
    writeTranscript outputFile t
    match ending with
    | .exit status => return status.toUInt32
    | .failed e =>
      IO.eprintln e.message
      return 1

end BranchPolicy

/-- The program. -/
def main (arguments : List String) : IO UInt32 :=
  BranchPolicy.runProgram (arguments.map String.toList)
