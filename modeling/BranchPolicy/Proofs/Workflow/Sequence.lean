import BranchPolicy.Proofs.Workflow.Stream

/-!
# Runs one after the other

One validation can be run on several inputs, one run after the other, all of them writing to the same
streams and the same output file.  A run has seven ends: two for inputs that are missing, one for an
evaluation that fails, two that return and two that report in an error.

* `Validation.runAll` — the runs of a validation on a list of inputs.
* `RunExit`, **`Ends`** — how a run on some inputs ends, with the verdict that it sets as its output.
* `runAll_eq_write` — the runs write their logs, one after the other.
* `WritesVerdicts`, `PrintsVerdicts` — what becomes of the verdicts with an output file and without.
* **`runAll_sets_verdicts`** — the runs that come to a verdict set it, once each and in order, also when
  they end in an error; the others set nothing.
* `run_prints_two_commands` — an expression with a line break can bring a second command along.
-/

namespace BranchPolicy

/-! ## How a run ends -/

/-- The end of a run: what it returns or raises, and the verdict that it has set, if any. -/
structure RunExit where
  result : Except RunError RunResult
  verdict? : Option Bool

namespace Validation

/-- The inputs of a run are there, and its evaluation comes to an outcome. -/
structure Evaluates (d : Dialect) (i : RunInputs) (e : Evaluation) : Prop where
  branchName : i.branchName ≠ []
  validationLogic : i.validationLogic.isBlank = false
  outcome : d.evaluate (some i.validationLogic) (some i.validatedBranch) = .ok e

/-- **How a run ends.**  The branch name is asked for before the expression, and both before the
evaluation.  Every evaluation with an outcome sets its verdict, whether the run returns or not. -/
inductive Ends (d : Dialect) (i : RunInputs) : RunExit → Prop
  | noBranchName (hname : i.branchName = []) : Ends d i ⟨.error (.input .noBranchName), none⟩
  | noValidationLogic (hname : i.branchName ≠ []) (hlogic : i.validationLogic.isBlank = true) :
      Ends d i ⟨.error (.input .noValidationLogic), none⟩
  | failed (hname : i.branchName ≠ []) (hlogic : i.validationLogic.isBlank = false)
      {e : EvaluationFailure}
      (hfailed : d.evaluate (some i.validationLogic) (some i.validatedBranch) = .error e) :
      Ends d i ⟨.error (.evaluation e), none⟩
  | approved {e : Evaluation} (h : Evaluates d i e) (hverdict : e.verdict = true) :
      Ends d i ⟨.ok ⟨true, e.summary, e⟩, some true⟩
  | reported {e : Evaluation} (h : Evaluates d i e) (hverdict : e.verdict = false)
      (hflag : i.failWhenNotValid = false) : Ends d i ⟨.ok ⟨false, e.summary, e⟩, some false⟩
  | invalidExpression {fault : Fault} (h : Evaluates d i (.rejected fault))
      (hflag : i.failWhenNotValid = true) :
      Ends d i ⟨.error (.invalidExpression (faultReport fault)), some false⟩
  | invalidBranch {trace : List CallAnswer} (h : Evaluates d i (.decided false trace))
      (hflag : i.failWhenNotValid = true) :
      Ends d i ⟨.error (.invalidBranch (Evaluation.decided false trace).summary), some false⟩

/-- The end of the run on some inputs. -/
def exitOf (d : Dialect) (i : RunInputs) : RunExit where
  result := result d i
  verdict? := (evaluation d i).toOption.map (·.verdict)

/-- An evaluation with an outcome is delivered in one of four ways. -/
lemma Evaluates.ends {d : Dialect} {i : RunInputs} {e : Evaluation} (h : Evaluates d i e) :
    Ends d i ⟨deliver i.failWhenNotValid e, some e.verdict⟩ := by
  cases hverdict : e.verdict with
  | true =>
      rw [deliver, hverdict, Bool.not_true, Bool.and_false, if_neg Bool.false_ne_true]
      exact .approved h hverdict
  | false =>
      rw [deliver, hverdict]
      cases hflag : i.failWhenNotValid with
      | false => exact .reported h hverdict hflag
      | true =>
          cases e with
          | rejected fault => exact .invalidExpression h hflag
          | decided verdict trace =>
              obtain rfl : verdict = false := hverdict
              exact .invalidBranch h hflag

lemma ends_exitOf (d : Dialect) (i : RunInputs) : Ends d i (exitOf d i) := by
  by_cases hname : i.branchName = []
  · have hmissing : missingInput i = some .noBranchName := by simp [missingInput, hname]
    rw [exitOf, result, evaluation, hmissing]
    exact .noBranchName hname
  cases hlogic : i.validationLogic.isBlank with
  | true =>
      have hmissing : missingInput i = some .noValidationLogic := by
        simp [missingInput, hname, hlogic]
      rw [exitOf, result, evaluation, hmissing]
      exact .noValidationLogic hname hlogic
  | false =>
      have hmissing : missingInput i = none := missingInput_eq_none_iff.mpr ⟨hname, hlogic⟩
      rw [exitOf, result, evaluation, hmissing]
      cases hevaluate : d.evaluate (some i.validationLogic) (some i.validatedBranch) with
      | error e => exact .failed hname hlogic hevaluate
      | ok e => exact Evaluates.ends ⟨hname, hlogic, hevaluate⟩

/-- A run returns a positive result exactly when it has set a positive verdict. -/
lemma Ends.isValid_iff {d : Dialect} {i : RunInputs} {x : RunExit} (h : Ends d i x) :
    (∃ r, x.result = .ok r ∧ r.isValid = true) ↔ x.verdict? = some true := by
  cases h <;> simp

/-! ## Runs one after the other -/

/-- The runs of a validation on some inputs, one after the other. -/
def runAll (v : Validation) : List RunInputs → Transcript → Transcript × List (Except RunError RunResult)
  | [], t => (t, [])
  | i :: is, t =>
    let (t, result) := v.run i t
    let (t, results) := v.runAll is t
    (t, result :: results)

/-- The runs write their logs one after the other and return their results. -/
theorem runAll_eq_write (v : Validation) (is : List RunInputs) (t : Transcript) :
    v.runAll is t
      = (v.console.write (is.flatMap (log v.dialect)) t, is.map (result v.dialect)) := by
  induction is generalizing t with
  | nil => rfl
  | cons i is ih =>
      rw [runAll, run_eq_write_log]
      simp only [ih, List.flatMap_cons, List.map_cons, Console.write_append]

lemma exitOf_verdict? (d : Dialect) (i : RunInputs) :
    (exitOf d i).verdict? = (evaluation d i).toOption.map (·.verdict) := rfl

/-! ## The output file -/

end Validation

/-- Lines at the end of a file, which does not exist before a line is written to it. -/
def appended (file : Option String) : List String → Option String
  | [] => file
  | line :: lines => some (file.getD "" ++ String.join ((line :: lines).map (· ++ "\n")))

lemma appended_eq_none_iff {file : Option String} {lines : List String} :
    appended file lines = none ↔ file = none ∧ lines = [] := by
  cases lines <;> simp [appended]

lemma foldl_outputLine (file : Option String) (outputs : List (String × String)) :
    outputs.foldl outputLine file = appended file (outputs.map fun o => o.1 ++ "=" ++ o.2) := by
  induction outputs generalizing file with
  | nil => rfl
  | cons o outputs ih =>
      rw [List.foldl_cons, ih]
      cases outputs with
      | nil => simp [appended, outputLine, String.append_assoc]
      | cons o' outputs => simp [appended, outputLine, String.append_assoc]

namespace Validation

/-- A verdict as a line of the output file. -/
def verdictLine (verdict : Bool) : String :=
  "valid-branch=" ++ if verdict then "true" else "false"

/-- The runs set the verdicts that they end with, and nothing else. -/
lemma outputsOf_flatMap_log (d : Dialect) (is : List RunInputs) :
    outputsOf (is.flatMap (log d))
      = ((is.map (exitOf d)).filterMap RunExit.verdict?).map verdictOutput := by
  induction is with
  | nil => rfl
  | cons i is ih =>
      rw [List.flatMap_cons, outputsOf_append, ih, outputsOf_log, List.map_cons, List.filterMap_cons,
        exitOf_verdict?]
      cases evaluation d i <;> rfl

lemma outputFile_runAll {v : Validation} (hfile : v.console.hasOutputFile = true)
    (is : List RunInputs) (t : Transcript) :
    (v.runAll is t).1.outputFile = appended t.outputFile
      (((is.map (exitOf v.dialect)).filterMap RunExit.verdict?).map verdictLine) := by
  have hline : (fun o : String × String => o.1 ++ "=" ++ o.2) ∘ verdictOutput = verdictLine := by
    funext verdict
    cases verdict <;> decide
  rw [runAll_eq_write, Console.outputFile_write hfile, outputsOf_flatMap_log, foldl_outputLine,
    List.map_map, hline]

/-! ## The stream -/

end Validation

/-- An entry is printed as it is, and none of its lines begins like the command for the verdict. -/
def LogEntry.isPlain : LogEntry → Bool
  | .line content => !content.toList.contains '\x1b' && (verdictCommands content.toList).isEmpty
  | .output _ _ => false

lemma LogEntry.verdictCommands_of_isPlain (c : Console) {e : LogEntry} (h : e.isPlain = true) :
    verdictCommands (e.text c) = [] := by
  cases e with
  | line content =>
      obtain ⟨hplain, hnone⟩ : '\x1b' ∉ content.toList ∧ verdictCommands content.toList = [] := by
        simpa [isPlain] using h
      rw [text, verdictCommands_lineText, c.display.shown_eq_self hplain, hnone]
  | output name value => exact absurd h (by simp [isPlain])

namespace Validation

/-- A verdict as the command that sets it. -/
def verdictCommand (verdict : Bool) : Text :=
  "::set-output name=valid-branch::".toList ++ (if verdict then "true" else "false").toList

/-- What a run prints before it looks at its inputs. -/
def listing (c : Console) (d : Dialect) : Text :=
  (greeting d).flatMap (LogEntry.text c)

/-- What a run prints at its end: the report of its result, unless it raises it. -/
def reportText (c : Console) : Except RunError RunResult → Text
  | .ok r => lineText c.display "" ++ lineText c.display r.message
  | .error _ => []

end Validation

/-- The verdicts that a run prints a command for, which are none if there is an output file. -/
def RunExit.printed (c : Console) (x : RunExit) : List Bool :=
  if c.hasOutputFile then [] else x.verdict?.toList

/-- What a run prints that ends in a given way: the list of the functions, the command for the verdict, if any,
and the report. -/
def RunExit.text (c : Console) (d : Dialect) (x : RunExit) : Text :=
  Validation.listing c d ++ ((x.printed c).flatMap fun b => Validation.verdictCommand b ++ ['\n']) ++
    Validation.reportText c x.result

namespace Validation

lemma flatMap_text_log (c : Console) (d : Dialect) (i : RunInputs) :
    (log d i).flatMap (LogEntry.text c) = (exitOf d i).text c d := by
  have hcommand : ∀ b, lineText c.display ("::set-output name=" ++ (verdictOutput b).1 ++ "::" ++
      (verdictOutput b).2) = verdictCommand b ++ ['\n'] := by
    intro b
    rw [lineText_eq_self _ (by cases b <;> decide)]
    cases b <;> decide
  have hreport : ∀ flag e,
      (reportLog flag e).flatMap (LogEntry.text c) = reportText c (deliver flag e) := by
    intro flag e
    unfold reportLog deliver
    split <;> simp [reportText, LogEntry.text]
  rw [log, List.flatMap_append, RunExit.text, List.append_assoc, ← listing, exitOf, result]
  cases evaluation d i with
  | error e => cases c.hasOutputFile <;> simp [RunExit.printed, Except.toOption, Except.bind, reportText]
  | ok e =>
      rw [List.flatMap_cons, hreport, LogEntry.text, hcommand]
      cases hfile : c.hasOutputFile <;> simp [RunExit.printed, hfile, Except.toOption, Except.bind]

/-- What a run has printed on the standard output that was empty before it. -/
lemma out_write_log {c : Console} (hout : c.toErr = false) (d : Dialect) (i : RunInputs) :
    (c.write (log d i) {}).out.toList = (exitOf d i).text c d := by
  have hstream := Console.stream_write (c := c) (log d i) {}
  rw [flatMap_text_log] at hstream
  simpa [Console.stream, hout] using congrArg String.toList hstream

lemma verdictCommands_verdictCommand (b : Bool) :
    verdictCommands (verdictCommand b) = [verdictCommand b] := by
  cases b <;> decide

/-- Commands on lines of their own are found, each of them, before what comes after. -/
lemma verdictCommands_flatMap_verdictCommand (verdicts : List Bool) (t : Text) :
    verdictCommands ((verdicts.flatMap fun b => verdictCommand b ++ ['\n']) ++ t)
      = verdicts.map verdictCommand ++ verdictCommands t := by
  induction verdicts with
  | nil => rfl
  | cons b verdicts ih =>
      rw [List.flatMap_cons, List.append_assoc, List.append_assoc, List.singleton_append,
        verdictCommands_append_break, verdictCommands_verdictCommand, ih]
      rfl

/-- The commands among the lines of a run: those of the list, the one that the run sets its verdict
with, and those of the report. -/
lemma verdictCommands_text (c : Console) (d : Dialect) (x : RunExit) :
    verdictCommands (x.text c d) = verdictCommands (listing c d) ++ (x.printed c).map verdictCommand ++
      verdictCommands (reportText c x.result) := by
  rw [RunExit.text, List.append_assoc, listing, verdictCommands_flatMap_append,
    verdictCommands_flatMap_verdictCommand, List.append_assoc]

/-- The list of the standard functions is printed as it is, and has no line that begins like the command. -/
lemma verdictCommands_listing_standard (c : Console) :
    verdictCommands (listing c Dialect.standard) = [] := by
  have hplain : (greeting Dialect.standard).all (LogEntry.isPlain ·) = true := by decide +kernel
  exact verdictCommands_flatMap_eq_nil fun e he =>
    LogEntry.verdictCommands_of_isPlain c (List.all_eq_true.mp hplain e he)

/-- The report of an expression on one line has no line that begins like the command. -/
lemma Ends.verdictCommands_reportText {i : RunInputs} {x : RunExit} (h : Ends Dialect.standard i x)
    (c : Console) (hline : '\n' ∉ i.validationLogic) : verdictCommands (reportText c x.result) = [] := by
  have hreport : ∀ {e b}, Evaluates Dialect.standard i e →
      verdictCommands (reportText c (.ok ⟨b, e.summary, e⟩)) = [] := by
    intro e b he
    obtain ⟨hfault, htrace⟩ := Dialect.isOneLine_of_evaluate hline he.outcome
    rw [reportText, verdictCommands_lineText_append, lineText_eq_self _ (by simp),
      verdictCommands_lineText, isCommandFree_summary hfault htrace _ (c.display.strips _)]
    decide
  cases h with
  | approved he => exact hreport he
  | reported he => exact hreport he
  | _ => exact verdictCommands_nil

/-! ## What becomes of the verdicts -/

/-- **With an output file**, the runs append one line for each verdict, in their order, and nothing
else.  The file is missing as long as no run has come to a verdict. -/
structure WritesVerdicts (v : Validation) (is : List RunInputs) (t : Transcript)
    (exits : List RunExit) : Prop where
  file : ∀ n, (v.runAll (is.take n) t).1.outputFile
    = appended t.outputFile (((exits.take n).filterMap RunExit.verdict?).map verdictLine)
  missing : (v.runAll is t).1.outputFile = none ↔
    t.outputFile = none ∧ ∀ x ∈ exits, x.verdict? = none

/-- **Without an output file**, no file appears, and every run prints one command for its verdict,
between the list of the functions and the report.  Other lines that begin like it belong to the list or
to the report; with the standard functions and checks there are none, unless the expression has a line
break. -/
structure PrintsVerdicts (v : Validation) (is : List RunInputs) (t : Transcript)
    (exits : List RunExit) : Prop where
  file : (v.runAll is t).1.outputFile = t.outputFile
  stream : v.console.stream (v.runAll is t).1
    = v.console.stream t ++ String.ofList (exits.flatMap (RunExit.text v.console v.dialect))
  commands : ∀ x ∈ exits, verdictCommands (x.text v.console v.dialect)
    = verdictCommands (listing v.console v.dialect) ++ x.verdict?.toList.map verdictCommand ++
      verdictCommands (reportText v.console x.result)
  single : v.dialect = Dialect.standard → List.Forall₂ (fun i x => '\n' ∉ i.validationLogic →
    verdictCommands (x.text v.console v.dialect) = x.verdict?.toList.map verdictCommand) is exits

lemma writesVerdicts {v : Validation} (hfile : v.console.hasOutputFile = true) (is : List RunInputs)
    (t : Transcript) : WritesVerdicts v is t (is.map (exitOf v.dialect)) where
  file n := by rw [outputFile_runAll hfile, List.map_take]
  missing := by
    rw [outputFile_runAll hfile, appended_eq_none_iff, List.map_eq_nil_iff,
      List.filterMap_eq_nil_iff]

lemma printsVerdicts {v : Validation} (hfile : v.console.hasOutputFile = false) (is : List RunInputs)
    (t : Transcript) : PrintsVerdicts v is t (is.map (exitOf v.dialect)) where
  file := by rw [runAll_eq_write, Console.outputFile_write_of_no_file hfile]
  stream := by
    rw [runAll_eq_write, Console.stream_write, List.flatMap_assoc, List.flatMap_map]
    simp only [flatMap_text_log]
  commands x _ := by rw [verdictCommands_text, RunExit.printed, if_neg (by simp [hfile])]
  single hstandard := by
    rw [List.forall₂_map_right_iff, List.forall₂_same]
    intro i _ hline
    have hends : Ends Dialect.standard i (exitOf v.dialect i) := hstandard ▸ ends_exitOf v.dialect i
    rw [verdictCommands_text, hstandard, verdictCommands_listing_standard, ← hstandard,
      hends.verdictCommands_reportText _ hline, List.nil_append, List.append_nil, RunExit.printed,
      if_neg (by simp [hfile])]

/-- **Every run that comes to a verdict sets it, once, and no other run sets anything.**  The runs of
one validation end each in one of the ways of `Ends`, and return or raise accordingly; a run returns a
positive result exactly when it has set a positive verdict.  With an output file, the verdicts are its
lines, in the order of the runs; without one they are commands on the console. -/
theorem runAll_sets_verdicts (v : Validation) (is : List RunInputs) (t : Transcript) :
    ∃ exits, List.Forall₂ (Ends v.dialect) is exits ∧
      (v.runAll is t).2 = exits.map RunExit.result ∧
      (∀ x ∈ exits, (∃ r, x.result = .ok r ∧ r.isValid = true) ↔ x.verdict? = some true) ∧
      if v.console.hasOutputFile then WritesVerdicts v is t exits else PrintsVerdicts v is t exits := by
  have hends : List.Forall₂ (Ends v.dialect) is (is.map (exitOf v.dialect)) := by
    rw [List.forall₂_map_right_iff, List.forall₂_same]
    exact fun i _ => ends_exitOf v.dialect i
  refine ⟨is.map (exitOf v.dialect), hends, ?_, fun x hx => ?_, ?_⟩
  · rw [runAll_eq_write, List.map_map]
    rfl
  · obtain ⟨i, -, hi⟩ := Traversal.exists_of_mem_right hends hx
    exact hi.isValid_iff
  · split
    · next hfile => exact writesVerdicts hfile is t
    · next hfile => exact printsVerdicts (Bool.eq_false_iff.mpr hfile) is t

/-- The inputs of a run whose expression quotes the command for another verdict on a line of its own. -/
def quotingInputs : RunInputs where
  branchName := "main".toList
  validationLogic := "x\n::set-output name=valid-branch::true\ny()".toList
  failWhenNotValid := false

/-- **A report can bring a second command along.**  The run comes to a negative verdict and prints the
command for it, and then quotes a positive one in its report. -/
theorem run_prints_two_commands :
    (exitOf Dialect.standard quotingInputs).verdict? = some false ∧
      verdictCommands (Validation.run { console := { display := .piped } } quotingInputs {}).1.out.toList
        = [verdictCommand false, verdictCommand true] := by
  let c : Console := { display := .piped }
  have hverdict : (exitOf Dialect.standard quotingInputs).verdict? = some false := by
    decide +kernel
  have hreport : verdictCommands (reportText c (exitOf Dialect.standard quotingInputs).result)
      = [verdictCommand true] := by
    decide +kernel
  refine ⟨hverdict, ?_⟩
  rw [run_eq_write_log, out_write_log rfl, verdictCommands_text, verdictCommands_listing_standard,
    RunExit.printed, hverdict, hreport]
  rfl

end Validation

end BranchPolicy
