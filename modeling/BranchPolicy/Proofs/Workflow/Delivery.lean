import BranchPolicy.Proofs.Workflow.Sequence

/-!
# What the flag of a run changes

The inputs of a run say whether a negative outcome is raised as an error or reported on the console.
Nothing else hangs on this flag: the run that raises and the run that reports look at the same inputs,
come to the same evaluation, set the same output and word the outcome alike.

* `RunInputs.raising`, `RunInputs.reporting` — the same inputs with the flag set and with it cleared.
* `run_reporting_of_negative` — a negative evaluation is raised by the one run, and the other writes the
  text of that error after everything that the first has written.
* `run_reporting_of_not_raised` — where no negative outcome is raised, the two runs are the same.
* `IsShown` — a text as a console shows it.
* `DeliversAlike` — what the two runs have in common on each exit of the first.
* **`run_raising_and_reporting`** — it is so for every validation, all inputs and every start.
* **`report_without_control_sequences`** — a report that quotes a control sequence is shown without it
  where the console is no terminal.
-/

namespace BranchPolicy

namespace RunInputs

/-- The inputs, with negative outcomes raised as errors. -/
def raising (i : RunInputs) : RunInputs :=
  { i with failWhenNotValid := true }

/-- The inputs, with negative outcomes reported on the console. -/
def reporting (i : RunInputs) : RunInputs :=
  { i with failWhenNotValid := false }

end RunInputs

namespace Validation

variable {v : Validation} {i : RunInputs} {t : Transcript}

/-! ## The evaluation comes first

The flag is looked at once there is an evaluation with a negative verdict, and not before. -/

lemma evaluation_raising (d : Dialect) (i : RunInputs) :
    evaluation d i.raising = evaluation d i := rfl

lemma evaluation_reporting (d : Dialect) (i : RunInputs) :
    evaluation d i.reporting = evaluation d i := rfl

lemma Evaluates.evaluation_eq {d : Dialect} {e : Evaluation} (h : Evaluates d i e) :
    evaluation d i = .ok e := by
  rw [evaluation, missingInput_eq_none_iff.mpr ⟨h.branchName, h.validationLogic⟩, h.outcome]
  rfl

/-- **On a negative evaluation**, the one run raises an error, and the other writes what the first has
written and then the text of that error. -/
lemma run_reporting_of_negative {e : Evaluation} (h : evaluation v.dialect i = .ok e)
    (hverdict : e.verdict = false) (t : Transcript) :
    (v.run i.raising t).2 = .error e.asError ∧
      v.run i.reporting t = (v.writeReport e.asError.message (v.run i.raising t).1,
        .ok ⟨false, e.asError.message, e⟩) := by
  have hmessage : e.asError.message = e.summary := by cases e <;> rfl
  rw [run_eq_write_log, run_eq_write_log, log, log, result, result, evaluation_raising,
    evaluation_reporting, h, hmessage]
  simp only [Except.bind, deliver, reportLog, hverdict, RunInputs.raising, RunInputs.reporting]
  refine ⟨rfl, Prod.ext ?_ rfl⟩
  simp only [Console.write_append, Console.write_cons]
  rfl

/-- **Where no negative outcome is raised**, the two runs are one and the same. -/
lemma run_reporting_of_not_raised (h : ∀ e : Evaluation, (v.run i.raising t).2 ≠ .error e.asError) :
    v.run i.reporting t = v.run i.raising t := by
  have hpositive : ∀ e, evaluation v.dialect i = .ok e → e.verdict = true := by
    intro e he
    by_contra hverdict
    exact h e (run_reporting_of_negative he (Bool.eq_false_iff.mpr hverdict) t).1
  rw [run_eq_write_log, run_eq_write_log, log, log, result, result, evaluation_raising,
    evaluation_reporting]
  cases hevaluation : evaluation v.dialect i with
  | error x => rfl
  | ok e =>
      have hverdict := hpositive e hevaluation
      simp only [Except.bind, deliver, reportLog, hverdict, Bool.not_true, Bool.and_false]

/-- What is raised as a negative outcome is the text of a negative evaluation. -/
lemma exists_negative_of_raised {m : String}
    (h : (v.run i.raising t).2 = .error (.invalidExpression m) ∨
      (v.run i.raising t).2 = .error (.invalidBranch m)) :
    ∃ e, evaluation v.dialect i = .ok e ∧ e.verdict = false ∧ e.asError.message = m := by
  have hends := ends_exitOf v.dialect i.raising
  have hresult : (v.run i.raising t).2 = (exitOf v.dialect i.raising).result := by
    rw [run_eq_write_log]
    rfl
  rw [hresult] at h
  generalize exitOf v.dialect i.raising = x at h hends
  cases hends with
  | invalidExpression he _ =>
      obtain rfl : faultReport _ = m := by simpa using h
      exact ⟨_, he.evaluation_eq, rfl, rfl⟩
  | invalidBranch he _ =>
      obtain rfl : Evaluation.summary _ = m := by simpa using h
      exact ⟨_, he.evaluation_eq, rfl, rfl⟩
  | _ => simp at h

/-! ## What is written -/

/-- What a run sets in the output file depends on its evaluation alone. -/
lemma outputFile_run (v : Validation) (i : RunInputs) (t : Transcript) :
    (v.run i t).1.outputFile = appended t.outputFile
      (if v.console.hasOutputFile then
        (exitOf v.dialect i).verdict?.toList.map verdictLine else []) := by
  cases hfile : v.console.hasOutputFile with
  | false =>
      rw [run_eq_write_log, Console.outputFile_write_of_no_file hfile]
      rfl
  | true =>
      have hrun : (v.run i t).1 = (v.runAll [i] t).1 := rfl
      rw [hrun, outputFile_runAll hfile]
      cases h : (exitOf v.dialect i).verdict? <;> simp [h]

/-- A report is written after an empty line, as the console shows it. -/
lemma stream_writeReport (v : Validation) (report : String) (t : Transcript) :
    v.console.stream (v.writeReport report t)
      = v.console.stream t ++ "\n" ++ String.ofList (v.console.display.shown report.toList) ++ "\n" := by
  have hblank : String.ofList (lineText v.console.display "") = "\n" := by
    rw [lineText_eq_self _ (by simp)]
    rfl
  have hreport : String.ofList (lineText v.console.display report)
      = String.ofList (v.console.display.shown report.toList) ++ "\n" := by
    rw [lineText, String.ofList_append]
  rw [writeReport, Console.putBlank, Console.stream_putLine, Console.stream_putLine, hblank, hreport,
    ← String.append_assoc]

/-! ## The two runs -/

/-- **A text as a console shows it**: the text itself on a terminal, and elsewhere the text without some of
its control sequences, which is the text itself if it has no escape character. -/
structure IsShown (d : Display) (m : String) (shown : Text) : Prop where
  terminal : d.isTerminal = true → shown = m.toList
  strips : Text.Strips m.toList shown
  plain : '\x1b' ∉ m.toList → shown = m.toList

lemma isShown (d : Display) (m : String) : IsShown d m (d.shown m.toList) where
  terminal h := d.shown_terminal h _
  strips := d.strips _
  plain := d.shown_eq_self

/-- **What a run that raises negative outcomes has in common with the run that reports them**, both from
the same start, by the exits of the former.  The report is the text of the error as the console shows it. -/
structure DeliversAlike (v : Validation) (t : Transcript)
    (raising reporting : Transcript × Except RunError RunResult) : Prop where
  outputFile : ∃ lines, raising.1.outputFile = appended t.outputFile lines ∧
    reporting.1.outputFile = appended t.outputFile lines
  returned : ∀ r, raising.2 = .ok r → reporting = raising
  input : ∀ e, raising.2 = .error (.input e) → reporting = raising
  evaluation : ∀ e, raising.2 = .error (.evaluation e) → reporting = raising
  negative : ∀ m, raising.2 = .error (.invalidExpression m) ∨ raising.2 = .error (.invalidBranch m) →
    (∃ e, reporting.2 = .ok ⟨false, m, e⟩) ∧
    ∃ shown, IsShown v.console.display m shown ∧
      v.console.stream reporting.1
        = v.console.stream raising.1 ++ "\n" ++ String.ofList shown ++ "\n"

/-- **The flag of a run changes how a negative outcome is delivered, and nothing else.** -/
theorem run_raising_and_reporting (v : Validation) (i : RunInputs) (t : Transcript) :
    DeliversAlike v t (v.run i.raising t) (v.run i.reporting t) where
  outputFile := ⟨_, outputFile_run v i.raising t, outputFile_run v i.reporting t⟩
  returned r h := by
    refine run_reporting_of_not_raised fun e he => ?_
    rw [h] at he
    exact absurd he (by simp)
  input x h := by
    refine run_reporting_of_not_raised fun e he => ?_
    rw [h] at he
    cases e <;> exact absurd he (by simp [Evaluation.asError])
  evaluation x h := by
    refine run_reporting_of_not_raised fun e he => ?_
    rw [h] at he
    cases e <;> exact absurd he (by simp [Evaluation.asError])
  negative m h := by
    obtain ⟨e, hevaluation, hverdict, rfl⟩ := exists_negative_of_raised h
    obtain ⟨-, hreported⟩ := run_reporting_of_negative hevaluation hverdict t
    rw [hreported]
    exact ⟨⟨e, rfl⟩, _, isShown v.console.display e.asError.message, stream_writeReport v _ _⟩

/-- The inputs of a run whose expression calls a function by a name in colour. -/
def colouredInputs : RunInputs where
  branchName := "main".toList
  validationLogic := "\x1b[31mmain()".toList

/-- A validation whose console is no terminal. -/
def piped : Validation where
  console := { display := .piped }

/-- **A report that quotes a control sequence is shown without it** where the console is no terminal, so that
what the run that reports prints is not what the run that raises has printed, an empty line and the text of
the error. -/
theorem report_without_control_sequences :
    ∃ m, (piped.run colouredInputs.raising {}).2 = .error (.invalidExpression m) ∧
      (piped.run colouredInputs.reporting {}).1.out
        ≠ (piped.run colouredInputs.raising {}).1.out ++ "\n" ++ m ++ "\n" := by
  let e : Evaluation := .rejected (.call (.notUsable "\x1b[31mmain".toList))
  have hevaluation : evaluation Dialect.standard colouredInputs = .ok e := by decide +kernel
  obtain ⟨hraised, hreported⟩ :=
    run_reporting_of_negative (v := piped) (i := colouredInputs) hevaluation rfl {}
  refine ⟨e.asError.message, hraised, fun h => ?_⟩
  have hshown : String.ofList (Text.visible e.asError.message.toList) ≠ e.asError.message := by
    decide +kernel
  rw [hreported] at h
  have hstream := stream_writeReport piped e.asError.message (piped.run colouredInputs.raising {}).1
  -- the console of the validation writes to the standard output
  have hsame := (String.append_left_inj "\n").mp (hstream.symm.trans h)
  exact hshown ((String.append_right_inj _).mp hsame)

end Validation

end BranchPolicy
