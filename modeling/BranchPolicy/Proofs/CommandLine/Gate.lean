import BranchPolicy.CommandLine.Session
import BranchPolicy.Proofs.Workflow.Sequence
import BranchPolicy.Yaml.ConfigFile
import Mathlib.Tactic.Common

/-!
# The command line as a gate

A workflow that runs the command `validate` goes on when the command exits with status 0.  So the status
must be 0 for the branch names that the expression approves and for no others, unless failing was switched
off, and the output must hold the verdict either way.  Without an output file the output is a line among
others, and a report that quotes an expression with line breaks can bring along a line that reads like it.

* `runValidate_of_inputs` — the command writes the log of a run and ends as its result says.
* `out_endOfRun`, `outputFile_endOfRun` — the message of an error goes to the standard error alone.
* `out_of_inputs` — what the command prints on the standard output.
* **`validate_exits_zero_iff_approved`** — the status, and the output that is set.
* `validate_prints_two_commands` — a validation that prints two commands for its verdict.
-/

namespace BranchPolicy

lemma approves_eq_ok_iff {expression branch : Option Text} {verdict : Bool} :
    approves expression branch = .ok verdict ↔
      ∃ e, Dialect.standard.evaluate expression branch = .ok e ∧ e.verdict = verdict := by
  rw [approves]
  cases Dialect.standard.evaluate expression branch <;> simp [Except.map]

namespace Command

open Validation (log result evaluation verdictOutput exitOf reportText verdictCommand verdictLine)

/-! ## How a run ends the command -/

/-- Reporting an error leaves the standard output as it is. -/
lemma out_endOfRun (host : Host) (t : Transcript) (r : Except RunError RunResult) :
    (endOfRun host (t, r)).1.out = t.out := by
  rcases r with (e | e | report | report) | r <;> rfl

/-- Reporting an error leaves the output file as it is. -/
lemma outputFile_endOfRun (host : Host) (t : Transcript) (r : Except RunError RunResult) :
    (endOfRun host (t, r)).1.outputFile = t.outputFile := by
  rcases r with (e | e | report | report) | r <;> rfl

/-- Once there are inputs, the command writes the log of a run and ends as its result says. -/
lemma runValidate_of_inputs {o : ValidateOptions} {host : Host} {file : Option (Text × Text)}
    {i : RunInputs} (hinputs : o.inputs host file = .ok i) :
    (Command.validate o).run host file
      = endOfRun host (host.console.write (log Dialect.standard i) {}, result Dialect.standard i) := by
  have hrun : (Command.validate o).run host file = runValidate o host file := rfl
  rw [hrun, runValidate, hinputs]
  exact congrArg (endOfRun host) (Validation.run_eq_write_log _ i {})

/-- Status 0 is for a result, and status 1 for an error that is the user's. -/
lemma ending_endOfRun_deliver (host : Host) (t : Transcript) (failWhenNotValid : Bool) (e : Evaluation) :
    (endOfRun host (t, Validation.deliver failWhenNotValid e)).2
      = .exit (if failWhenNotValid && !e.verdict then 1 else 0) := by
  rw [Validation.deliver]
  split
  · cases e <;> rfl
  · rfl

/-- How the command ends: a missing input and a failure of the evaluation aside, with the status that
the verdict asks for. -/
lemma ending_of_inputs {o : ValidateOptions} {host : Host} {file : Option (Text × Text)}
    {i : RunInputs} (hinputs : o.inputs host file = .ok i) :
    ((Command.validate o).run host file).2
      = match evaluation Dialect.standard i with
        | .ok e => .exit (if i.failWhenNotValid && !e.verdict then 1 else 0)
        | .error (.evaluation e) => .failed (.evaluation e)
        | .error _ => .exit 1 := by
  rw [runValidate_of_inputs hinputs, result]
  cases evaluation Dialect.standard i with
  | error e => cases e <;> rfl
  | ok e => exact ending_endOfRun_deliver host _ i.failWhenNotValid e

/-! ## The gate -/

section Gate

variable {o : ValidateOptions} {host : Host} {file : Option (Text × Text)} {i : RunInputs}

/-- A run that is not cut short and misses no input comes to a verdict. -/
lemma exists_evaluation (hinputs : o.inputs host file = .ok i)
    (hended : ∀ e, ((Command.validate o).run host file).2 ≠ .failed e)
    (hgiven : i.branchName ≠ [] ∧ i.validationLogic.isBlank = false) :
    ∃ e, evaluation Dialect.standard i = .ok e ∧
      approves (some i.validationLogic) (some i.validatedBranch) = .ok e.verdict := by
  have hending := ending_of_inputs hinputs
  rw [evaluation, Validation.missingInput_eq_none_iff.mpr hgiven] at hending ⊢
  cases hevaluate : Dialect.standard.evaluate (some i.validationLogic) (some i.validatedBranch) with
  | error e =>
      rw [hevaluate] at hending
      exact absurd hending (hended _)
  | ok e => exact ⟨e, rfl, approves_eq_ok_iff.mpr ⟨e, hevaluate, rfl⟩⟩

/-- A run that misses an input ends with status 1. -/
lemma ending_of_missing (hinputs : o.inputs host file = .ok i)
    (hmissing : ¬ (i.branchName ≠ [] ∧ i.validationLogic.isBlank = false)) :
    ((Command.validate o).run host file).2 = .exit 1 := by
  rw [ending_of_inputs hinputs, evaluation]
  rw [← Validation.missingInput_eq_none_iff] at hmissing
  obtain ⟨e, he⟩ := Option.ne_none_iff_exists.mp hmissing
  rw [← he]

/-- What the command prints on the standard output: the list of the functions, the command for the verdict
unless there is an output file, and the report. -/
lemma out_of_inputs (hinputs : o.inputs host file = .ok i) :
    ((Command.validate o).run host file).1.out.toList
      = (exitOf Dialect.standard i).text host.console Dialect.standard := by
  rw [runValidate_of_inputs hinputs, out_endOfRun]
  exact Validation.out_write_log rfl Dialect.standard i

/-- The report has no line that begins like the command if the expression has no line break, and there is no
report where the command exits with status 1. -/
lemma verdictCommands_report (hinputs : o.inputs host file = .ok i) {e : Evaluation}
    (hevaluation : evaluation Dialect.standard i = .ok e)
    (h : '\n' ∉ i.validationLogic ∨ ((Command.validate o).run host file).2 = .exit 1) :
    verdictCommands (reportText host.console (result Dialect.standard i)) = [] := by
  rcases h with hline | hone
  · exact (Validation.ends_exitOf Dialect.standard i).verdictCommands_reportText host.console hline
  · rw [ending_of_inputs hinputs, hevaluation] at hone
    have hraised : (i.failWhenNotValid && !e.verdict) = true := by
      by_contra hreported
      simp [hreported] at hone
    rw [result, hevaluation]
    simp only [Except.bind, Validation.deliver, hraised, if_true]
    rfl

/-- **The command line is a gate.**  Let the options, the environment and the config file give the
inputs of a run, and let the run not be cut short by an error that is not the user's.  If failing is
asked for, the command exits with status 0 exactly when there are a branch name and an expression and
the expression approves the trimmed branch name, and with status 1 otherwise.  Whether it is asked for or
not, a run with a branch name and an expression sets its output to the verdict of the expression on the
trimmed branch name: it is the only line of the output file, or without such a file it is printed as a
command, once, between the list of the functions and the report.  All other commands for the verdict that
are printed stand in the report, which has none if the expression has no line break, and which is not
printed if the command exits with status 1. -/
theorem validate_exits_zero_iff_approved {t : Transcript} {ending : Ending}
    (hinputs : o.inputs host file = .ok i) (hrun : (Command.validate o).run host file = (t, ending))
    (hended : ∀ e, ending ≠ .failed e) :
    (i.failWhenNotValid = true →
      (ending = .exit 0 ↔
        i.branchName ≠ [] ∧ i.validationLogic.isBlank = false ∧
          approves (some i.validationLogic) (some i.validatedBranch) = .ok true) ∧
      (ending ≠ .exit 0 → ending = .exit 1)) ∧
    (i.branchName ≠ [] → i.validationLogic.isBlank = false →
      ∃ verdict, approves (some i.validationLogic) (some i.validatedBranch) = .ok verdict ∧
        t.outputFile = (if host.hasOutputFile then some (verdictLine verdict ++ "\n") else none) ∧
        t.out.toList = Validation.listing host.console Dialect.standard ++
          (if host.hasOutputFile then [] else verdictCommand verdict ++ ['\n']) ++
          reportText host.console (result Dialect.standard i) ∧
        verdictCommands t.out.toList = (if host.hasOutputFile then [] else [verdictCommand verdict]) ++
          verdictCommands (reportText host.console (result Dialect.standard i)) ∧
        ('\n' ∉ i.validationLogic ∨ ending = .exit 1 →
          verdictCommands (reportText host.console (result Dialect.standard i)) = [])) := by
  obtain rfl : ((Command.validate o).run host file).1 = t := congrArg Prod.fst hrun
  obtain rfl : ((Command.validate o).run host file).2 = ending := congrArg Prod.snd hrun
  refine ⟨fun hfail => ?status, fun hbranch hlogic => ?output⟩
  case status =>
    by_cases hgiven : i.branchName ≠ [] ∧ i.validationLogic.isBlank = false
    · obtain ⟨e, hevaluation, hverdict⟩ := exists_evaluation hinputs hended hgiven
      rw [ending_of_inputs hinputs, hevaluation, hverdict, hfail]
      cases h : e.verdict <;> simp [hgiven, h]
    · -- without a branch name or an expression both sides fail, whatever the verdict would be
      rw [ending_of_missing hinputs hgiven]
      refine ⟨⟨fun h => ?_, fun h => ?_⟩, fun _ => rfl⟩
      · exact absurd h (by simp)
      · exact absurd ⟨h.1, h.2.1⟩ hgiven
  case output =>
    obtain ⟨e, hevaluation, hverdict⟩ := exists_evaluation hinputs hended ⟨hbranch, hlogic⟩
    have hprinted : (exitOf Dialect.standard i).printed host.console
        = if host.hasOutputFile then [] else [e.verdict] := by
      rw [RunExit.printed, Validation.exitOf_verdict?, hevaluation]
      rfl
    refine ⟨e.verdict, hverdict, ?file, ?out, ?commands, verdictCommands_report hinputs hevaluation⟩
    case file =>
      have houtputs : outputsOf (log Dialect.standard i) = [verdictOutput e.verdict] := by
        rw [Validation.outputsOf_log, hevaluation]
      rw [runValidate_of_inputs hinputs, outputFile_endOfRun]
      cases hfile : host.hasOutputFile with
      | false => rw [Console.outputFile_write_of_no_file hfile, if_neg (by simp)]
      | true =>
          rw [Console.outputFile_write hfile, houtputs, if_pos rfl]
          cases e.verdict <;> rfl
    case out =>
      rw [out_of_inputs hinputs, RunExit.text, hprinted]
      cases host.hasOutputFile <;> simp [exitOf]
    case commands =>
      rw [out_of_inputs hinputs, Validation.verdictCommands_text,
        Validation.verdictCommands_listing_standard, List.nil_append, hprinted]
      cases host.hasOutputFile <;> rfl

end Gate

/-- Options that give the expression and name a config file. -/
def hotfixOptions : ValidateOptions where
  validationLogic := some "startsWith('feature/')".toList
  config := some "rules.yml".toList

/-- A workflow that gives the branch name, and has neither a terminal nor an output file. -/
def hotfixHost : Host where
  environment := fun name =>
    if name = "INPUT_BRANCH-NAME".toList then some "origin/hotfix/1".toList else none
  readConfig := ConfigFile.parse
  out := .piped
  err := .piped

/-- The config file with the other two inputs. -/
def hotfixConfig : Text × Text :=
  ("rules.yml".toList, "trim-from-start: Origin/\nfail-when-not-valid: yes\n".toList)

/-- A branch name that is not approved, with inputs from all three sources: the command exits with
status 1 and prints the one command for the verdict nevertheless. -/
theorem validate_exits_zero_iff_approved_hotfix :
    ((Command.validate hotfixOptions).run hotfixHost (some hotfixConfig)).2 = .exit 1 ∧
      verdictCommands ((Command.validate hotfixOptions).run hotfixHost (some hotfixConfig)).1.out.toList
        = [verdictCommand false] := by
  let i : RunInputs :=
    ⟨"origin/hotfix/1".toList, "startsWith('feature/')".toList, "Origin/".toList, true⟩
  have hinputs : hotfixOptions.inputs hotfixHost (some hotfixConfig) = .ok i := by decide +kernel
  have hended : ∀ e,
      ((Command.validate hotfixOptions).run hotfixHost (some hotfixConfig)).2 ≠ .failed e := by
    have hending : ((Command.validate hotfixOptions).run hotfixHost (some hotfixConfig)).2
        = .exit 1 := by decide +kernel
    simp [hending]
  have hrejects : approves (some i.validationLogic) (some i.validatedBranch) = .ok false := by
    decide +kernel
  obtain ⟨hstatus, houtput⟩ :=
    validate_exits_zero_iff_approved hinputs (Prod.eta _).symm hended
  rw [hrejects] at hstatus houtput
  obtain ⟨verdict, hverdict, -, -, hcommands, hreport⟩ := houtput (by decide) (by decide)
  obtain rfl := Except.ok.inj hverdict
  have hone := (hstatus rfl).2 (by simp [(hstatus rfl).1])
  rw [hreport (.inr hone)] at hcommands
  exact ⟨hone, hcommands⟩

/-- Options whose expression quotes the command for another verdict on a line of its own. -/
def quotingOptions : ValidateOptions where
  branchName := some "main".toList
  validationLogic := some "x\n::set-output name=valid-branch::true\ny()".toList
  failWhenNotValid := some false

/-- A place whose standard output is no terminal, without an output file. -/
def plainHost : Host where
  out := .piped
  err := .piped

/-- **A validation can print two commands for its verdict**: the one that it sets it with, and another one that
its report quotes. -/
theorem validate_prints_two_commands :
    approves quotingOptions.validationLogic quotingOptions.branchName = .ok false ∧
      ((Command.validate quotingOptions).run plainHost none).2 = .exit 0 ∧
      verdictCommands ((Command.validate quotingOptions).run plainHost none).1.out.toList
        = [verdictCommand false, verdictCommand true] := by
  let i : RunInputs :=
    ⟨"main".toList, "x\n::set-output name=valid-branch::true\ny()".toList, [], false⟩
  have hinputs : quotingOptions.inputs plainHost none = .ok i := by decide +kernel
  have hverdict : (exitOf Dialect.standard i).printed plainHost.console = [false] := by
    decide +kernel
  have hreport : verdictCommands (reportText plainHost.console (exitOf Dialect.standard i).result)
      = [verdictCommand true] := by
    decide +kernel
  refine ⟨by decide +kernel, by decide +kernel, ?_⟩
  rw [out_of_inputs hinputs, Validation.verdictCommands_text,
    Validation.verdictCommands_listing_standard, hverdict, hreport]
  rfl

end Command

end BranchPolicy
