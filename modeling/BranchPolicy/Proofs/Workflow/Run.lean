import BranchPolicy.Workflow.Run
import Mathlib.Tactic.Lemma

/-!
# What a run writes and returns

What a run writes depends on its inputs alone, not on the console it goes to, nor on what was written
before.  It is a log of lines and outputs, which the console then writes to the streams or to the output
file.

* `LogEntry`, `outputsOf`, `Console.write` — a line or an output, and how a console writes them.
* `outputFile_write`, `outputFile_write_of_no_file` — the output file receives the outputs of a log, if
  there is one, and nothing else.
* `Validation.evaluation` — the evaluation that a run comes to, or what stands in its way.
* `Validation.log`, `Validation.result` — what a run writes, and what it returns.
* **`run_eq_write_log`** — a run writes its log and returns its result.
* **`outputsOf_log`** — the log sets one output, the verdict, if there is an evaluation, and none otherwise.
-/

namespace BranchPolicy

/-! ## Logs -/

/-- What is written at one time: a line, or an output under a name.  What a line says is not looked at here,
although a workflow may take it for a command once it is printed. -/
inductive LogEntry where
  | line (text : String)
  | output (name value : String)
  deriving DecidableEq, Repr

/-- The name and the value of an output. -/
def LogEntry.output? : LogEntry → Option (String × String)
  | .line _ => none
  | .output name value => some (name, value)

/-- The outputs of a log, in order, as it sets them. -/
def outputsOf (log : List LogEntry) : List (String × String) :=
  log.filterMap LogEntry.output?

@[simp] lemma outputsOf_append (log log' : List LogEntry) :
    outputsOf (log ++ log') = outputsOf log ++ outputsOf log' := by
  simp [outputsOf]

@[simp] lemma outputsOf_lines (lines : List String) : outputsOf (lines.map .line) = [] := by
  simp [outputsOf, LogEntry.output?]

/-- An output as a line of the output file, after what the file holds. -/
def outputLine (file : Option String) (output : String × String) : Option String :=
  some (file.getD "" ++ (output.1 ++ "=" ++ output.2) ++ "\n")

namespace Console

/-- Writes an entry. -/
def put (c : Console) (t : Transcript) : LogEntry → Transcript
  | .line text => c.putLine text t
  | .output name value => c.emit name value t

/-- Writes a log. -/
def write (c : Console) (log : List LogEntry) (t : Transcript) : Transcript :=
  log.foldl c.put t

variable {c : Console}

@[simp] lemma write_cons (e : LogEntry) (log : List LogEntry) (t : Transcript) :
    c.write (e :: log) t = c.write log (c.put t e) := rfl

@[simp] lemma write_append (log log' : List LogEntry) (t : Transcript) :
    c.write (log ++ log') t = c.write log' (c.write log t) :=
  List.foldl_append

lemma putLines_eq_write (lines : List String) (t : Transcript) :
    c.putLines lines t = c.write (lines.map .line) t := by
  rw [putLines, write, List.foldl_map]
  rfl

/-- The output file receives the outputs of a log, one line for each, and nothing else. -/
lemma outputFile_write (hfile : c.hasOutputFile = true) (log : List LogEntry) (t : Transcript) :
    (c.write log t).outputFile = (outputsOf log).foldl outputLine t.outputFile := by
  induction log generalizing t with
  | nil => rfl
  | cons e log ih =>
      rw [write_cons, ih]
      cases e with
      | line text =>
          rw [put, outputFile_putLine]
          rfl
      | output name value =>
          rw [put, emit_of_hasOutputFile hfile]
          rfl

lemma outputFile_write_of_no_file (hfile : c.hasOutputFile = false) (log : List LogEntry)
    (t : Transcript) : (c.write log t).outputFile = t.outputFile := by
  induction log generalizing t with
  | nil => rfl
  | cons e log ih =>
      rw [write_cons, ih]
      cases e with
      | line text => rw [put, outputFile_putLine]
      | output name value => rw [put, emit, hfile, if_neg (by simp), outputFile_putLine]

/-- What a log brings to the standard output leaves the standard error as it is. -/
lemma err_write (hout : c.toErr = false) (log : List LogEntry) (t : Transcript) :
    (c.write log t).err = t.err := by
  have hline : ∀ line t, (c.putLine line t).err = t.err := by
    intro line t
    rw [putLine, hout]
    rfl
  induction log generalizing t with
  | nil => rfl
  | cons e log ih =>
      rw [write_cons, ih]
      cases e with
      | line text => exact hline text t
      | output name value =>
          rw [put, emit]
          split
          · rfl
          · exact hline _ t

end Console

/-! ## Reports -/

/-- The report of an evaluation: its fault, or else the answers that explain its verdict. -/
def Evaluation.summary : Evaluation → String
  | .rejected fault => faultReport fault
  | .decided false trace => resultReport "Branch Invalid" ((trace.filter (!·.answer)).map (·.line))
  | .decided true trace => resultReport "Branch Valid" (trace.map (·.line))

/-- The error that a negative evaluation can be delivered as. -/
def Evaluation.asError : Evaluation → RunError
  | .rejected fault => .invalidExpression (faultReport fault)
  | .decided verdict trace => .invalidBranch (Evaluation.decided verdict trace).summary

namespace Validation

/-- What a run writes before it looks at its inputs. -/
def greeting (d : Dialect) : List LogEntry :=
  [.line "Welcome To The BranchValidator GitHub Action!!", .line "",
    .line "::group::Available Functions"] ++
  (d.registry.descriptions.map String.ofList).map .line ++ [.line "::endgroup::"]

/-- The output that a verdict is set as. -/
def verdictOutput (verdict : Bool) : String × String :=
  ("valid-branch", if verdict then "true" else "false")

/-- What a run writes after it has set its output: the report, unless it goes into an error. -/
def reportLog (failWhenNotValid : Bool) (evaluation : Evaluation) : List LogEntry :=
  if failWhenNotValid && !evaluation.verdict then []
  else [.line "", .line evaluation.summary]

/-- How a run delivers an evaluation: a negative one as an error, if that is asked for. -/
def deliver (failWhenNotValid : Bool) (evaluation : Evaluation) : Except RunError RunResult :=
  if failWhenNotValid && !evaluation.verdict then .error evaluation.asError
  else .ok ⟨evaluation.verdict, evaluation.summary, evaluation⟩

/-- The evaluation that a run comes to, or what stands in its way: an input that is missing, or a
failure of the evaluation. -/
def evaluation (d : Dialect) (i : RunInputs) : Except RunError Evaluation :=
  match missingInput i with
  | some e => .error (.input e)
  | none => (d.evaluate (some i.validationLogic) (some i.validatedBranch)).mapError .evaluation

/-- **What a run writes.** -/
def log (d : Dialect) (i : RunInputs) : List LogEntry :=
  greeting d ++
    match evaluation d i with
    | .error _ => []
    | .ok e => .output (verdictOutput e.verdict).1 (verdictOutput e.verdict).2 ::
        reportLog i.failWhenNotValid e

/-- **What a run returns.** -/
def result (d : Dialect) (i : RunInputs) : Except RunError RunResult :=
  (evaluation d i).bind (deliver i.failWhenNotValid)

/-! ## Runs -/

lemma missingInput_eq_none_iff {i : RunInputs} :
    missingInput i = none ↔ i.branchName ≠ [] ∧ i.validationLogic.isBlank = false := by
  rw [missingInput]
  cases hbranch : i.branchName.isEmpty <;> cases hlogic : i.validationLogic.isBlank <;>
    simp_all

lemma greet_eq_write (v : Validation) (t : Transcript) :
    v.greet t = v.console.write (greeting v.dialect) t := by
  rw [greet, Console.putGroup, Console.putLines_eq_write, greeting, Console.write_append,
    Console.write_append]
  rfl

lemma report_eq_write (v : Validation) (failWhenNotValid : Bool) (e : Evaluation) (t : Transcript) :
    v.report failWhenNotValid e t
      = (v.console.write (reportLog failWhenNotValid e) t, deliver failWhenNotValid e) := by
  cases e with
  | rejected fault => cases failWhenNotValid <;> rfl
  | decided verdict trace => cases verdict <;> cases failWhenNotValid <;> rfl

/-- **A run writes its log and returns its result**, on every console and after everything that was
written before. -/
theorem run_eq_write_log (v : Validation) (i : RunInputs) (t : Transcript) :
    v.run i t = (v.console.write (log v.dialect i) t, result v.dialect i) := by
  -- the greeting comes first on every path, so that only what follows it is left to compare
  rw [run, greet_eq_write, log, result, evaluation, Console.write_append]
  cases missingInput i with
  | some e => rfl
  | none =>
      cases v.dialect.evaluate (some i.validationLogic) (some i.validatedBranch) with
      | error e => rfl
      | ok e => exact report_eq_write v i.failWhenNotValid e _

lemma outputsOf_greeting (d : Dialect) : outputsOf (greeting d) = [] := by
  rw [greeting, outputsOf_append, outputsOf_append, outputsOf_lines]
  rfl

lemma outputsOf_reportLog (failWhenNotValid : Bool) (e : Evaluation) :
    outputsOf (reportLog failWhenNotValid e) = [] := by
  rw [reportLog]
  split <;> rfl

/-- **A run sets one output, the verdict of its evaluation**, and none if it comes to no evaluation. -/
theorem outputsOf_log (d : Dialect) (i : RunInputs) :
    outputsOf (log d i) = match evaluation d i with
      | .error _ => []
      | .ok e => [verdictOutput e.verdict] := by
  rw [log, outputsOf_append, outputsOf_greeting, List.nil_append]
  cases evaluation d i with
  | error e => rfl
  | ok e => exact congrArg (verdictOutput e.verdict :: ·) (outputsOf_reportLog i.failWhenNotValid e)

end Validation

end BranchPolicy
