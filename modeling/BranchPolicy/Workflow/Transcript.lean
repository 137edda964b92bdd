import BranchPolicy.Workflow.Display

/-!
# The console of a workflow

A run writes lines to the console and sets outputs. Outputs go to the output file of the workflow
if it has one, and otherwise to the console as a command. A line goes to one of two streams, which
holds it as it shows it. What has been written so far is a value.

* `Transcript` — all that has been written.
* `Console` — where lines and outputs go.
* `Console.putLine`, `Console.putGroup`, `Console.emit` — writing.
* `Console.assignOutput` — an output under a name that must not be empty.
-/

namespace BranchPolicy

/-- All that has been written: the two streams and the output file, which does not exist before
something is written to it. -/
structure Transcript where
  out : String := ""
  err : String := ""
  outputFile : Option String := none
  deriving DecidableEq, Repr

/-- Where the lines and the outputs of a run go, and how the stream of the lines shows them. -/
structure Console where
  toErr : Bool := false
  hasOutputFile : Bool := false
  display : Display := {}

/-- An output cannot be set under the empty name. -/
inductive OutputError where
  | emptyName
  deriving DecidableEq, Repr

/-- The sentence that reports a wrong output name. -/
def OutputError.message : OutputError → String
  | .emptyName => "The output name must not be empty."

namespace Transcript

/-- Adds a line to the standard output, as it is shown there. -/
def writeOut (t : Transcript) (shown : Text) : Transcript :=
  { t with out := t.out ++ String.ofList shown ++ "\n" }

/-- Adds a line to the standard error, as it is shown there. -/
def writeErr (t : Transcript) (shown : Text) : Transcript :=
  { t with err := t.err ++ String.ofList shown ++ "\n" }

/-- Adds a line to the output file, as it is. -/
def append (t : Transcript) (line : String) : Transcript :=
  { t with outputFile := some (t.outputFile.getD "" ++ line ++ "\n") }

end Transcript

namespace Console

/-- Writes a line. -/
def putLine (c : Console) (line : String) (t : Transcript) : Transcript :=
  let shown := c.display.shown line.toList
  if c.toErr then t.writeErr shown else t.writeOut shown

/-- Writes an empty line. -/
def putBlank (c : Console) (t : Transcript) : Transcript :=
  c.putLine "" t

/-- Writes several lines. -/
def putLines (c : Console) (lines : List String) (t : Transcript) : Transcript :=
  lines.foldl (fun t line => c.putLine line t) t

/-- Writes lines as a group that can be folded away. -/
def putGroup (c : Console) (title : String) (lines : List String) (t : Transcript) :
    Transcript :=
  c.putLine "::endgroup::" (c.putLines lines (c.putLine ("::group::" ++ title) t))

/-- Sets an output, in the output file if there is one. -/
def emit (c : Console) (name value : String) (t : Transcript) : Transcript :=
  if c.hasOutputFile then t.append (name ++ "=" ++ value)
  else c.putLine ("::set-output name=" ++ name ++ "::" ++ value) t

/-- With an output file, setting an output writes a line to the file and nothing else. -/
theorem emit_of_hasOutputFile {c : Console} (h : c.hasOutputFile = true) (name value : String)
    (t : Transcript) : c.emit name value t = t.append (name ++ "=" ++ value) := by
  simp [emit, h]

/-- Writing a line leaves the output file as it is. -/
theorem outputFile_putLine (c : Console) (line : String) (t : Transcript) :
    (c.putLine line t).outputFile = t.outputFile := by
  unfold putLine
  split <;> rfl

/-- **Sets an output** under a name that must not be empty. -/
def assignOutput (c : Console) (name value : String) (t : Transcript) :
    Except OutputError Transcript :=
  if name.isEmpty then .error .emptyName else .ok (c.emit name value t)

end Console

end BranchPolicy
