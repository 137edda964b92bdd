import BranchPolicy.CommandLine.Parser
import BranchPolicy.Proofs.CommandLine.Gate
import BranchPolicy.Proofs.Reporting

/-!
# Checking an expression and validating by it

The command `check` looks at an expression without a branch name, and the command `validate` goes through
the inputs, the evaluation and the report of a run.  They call the same expressions malformed, and they say
so in the same words.  Neither is asked for a log, which would go to the standard error as well.

* `IsCheck`, `IsValidation` — a command line that checks an expression, and one that validates a branch name
  by it.
* `inputs_of_options` — with no other inputs around, the options are the inputs of the run.
* `Transcript.Reports` — the standard error begins with a title; `reports_iff_of_not_terminal` says what
  this is in a file or a pipe.
* `runCheck_eq`, `runValidate_eq` — how the two commands end, told from the outcome of the evaluation.
* `Agree` — the two commands agree on an expression and a branch name.
* **`check_agrees_with_validate`** — they do for every expression, and the check is the same for every
  branch name.
-/

namespace BranchPolicy

namespace Command

/-! ## The command lines -/

/-- **A command line checks an expression.** -/
def IsCheck (parser : CommandParser) (expression : Text) (line : List Text) : Prop :=
  parser.parse line = .ok { command := .check expression }

/-- **A command line validates a branch name by an expression** when it gives these two and no more. -/
def IsValidation (parser : CommandParser) (branch expression : Text) (line : List Text) : Prop :=
  parser.parse line = .ok { command := .validate (.given branch expression) }

/-- With no other inputs around, the options are the inputs of the run. -/
lemma inputs_of_options {branch expression : Text} {host : Host}
    (henvironment : ∀ name, "INPUT_".toList <+: name → host.environment name = none)
    (hbranch : branch ≠ []) (hexpression : expression ≠ []) :
    (ValidateOptions.given branch expression).inputs host none
      = .ok ⟨branch, expression, [], true⟩ := by
  have hmapping : RunInputs.environmentMapping host.environment = [] := by
    have hvariable : ∀ input : InputName, host.environment (variableName input.text) = none :=
      fun input => henvironment _ (List.prefix_append _ _)
    simp [RunInputs.environmentMapping, hvariable]
  obtain ⟨b, bs, rfl⟩ := List.exists_cons_of_ne_nil hbranch
  obtain ⟨e, es, rfl⟩ := List.exists_cons_of_ne_nil hexpression
  rw [ValidateOptions.inputs, RunInputs.ofSources, hmapping]
  rfl

end Command

/-! ## Titles of reports -/

/-- **The standard error begins with a title**, behind the mark for red if it has one. -/
def Transcript.Reports (t : Transcript) (err : Display) (title : String) : Prop :=
  err.opening .red ++ title.toList <+: t.err.toList

/-- Where the standard error is no terminal, the title is the first thing on it. -/
lemma Transcript.reports_iff_of_not_terminal {t : Transcript} {err : Display} {title : String}
    (h : err.isTerminal = false) : t.Reports err title ↔ title.toList <+: t.err.toList := by
  rw [Reports, err.opening_eq_nil h, List.nil_append]

/-- A message that begins with a title line is reported under that title. -/
lemma reports_endWithMessage {host : Host} {t : Transcript} (ht : t.err = "") {title message : String}
    {rest : Text} (htitle : '\x1b' ∉ title.toList)
    (hmessage : message.toList = title.toList ++ '\n' :: rest) :
    (endWithMessage host message t).1.Reports host.err title := by
  have hstrips := host.err.strips message.toList
  rw [hmessage] at hstrips
  obtain ⟨title', rest', hshown, htitle', -⟩ := hstrips.append_break
  rw [htitle'.eq_self htitle, ← hmessage] at hshown
  have herr : (endWithMessage host message t).1.err.toList
      = host.err.opening .red ++ title.toList ++ ('\n' :: rest' ++ host.err.closing ++ ['\n']) := by
    simp [endWithMessage, Transcript.writeErr, Display.styled, ht, hshown]
  rw [Transcript.Reports, herr]
  exact List.prefix_append _ _

lemma reports_faultReport {host : Host} {t : Transcript} (ht : t.err = "") (fault : Fault) :
    (endWithMessage host (faultReport fault) t).1.Reports host.err "Invalid Syntax" := by
  have hmessage : (faultReport fault).toList
      = "Invalid Syntax".toList ++ '\n' :: '\t' :: fault.message.toList := by
    simp [faultReport]
  exact reports_endWithMessage ht (by decide) hmessage

lemma reports_resultReport {host : Host} {t : Transcript} (ht : t.err = "") (lines : List String) :
    (endWithMessage host (resultReport "Branch Invalid" lines) t).1.Reports host.err "Branch Invalid" := by
  have hmessage : (resultReport "Branch Invalid" lines).toList = "Branch Invalid".toList ++
      '\n' :: ("\nFunction Results:\n\t".toList ++ ("\n\t".intercalate lines).toList) := by
    simp [resultReport]
  exact reports_endWithMessage ht (by decide) hmessage

/-- The two titles begin with different letters. -/
lemma not_reports_both {t : Transcript} {err : Display} (hinvalid : t.Reports err "Invalid Syntax") :
    ¬ t.Reports err "Branch Invalid" := by
  intro hbranch
  have hletter := List.prefix_or_prefix_of_prefix hinvalid hbranch
  rw [List.prefix_append_right_inj, List.prefix_append_right_inj] at hletter
  exact absurd hletter (by decide)

/-! ## How the two commands end -/

namespace Command

open Expression (calls)
open Validation (evaluation log result)

/-- How the check of an expression ends, told from the outcome of an evaluation of it. -/
def endOfCheck (host : Host) : Evaluation → Transcript × Ending
  | .rejected fault => endWithMessage host (faultReport fault) {}
  | .decided _ _ =>
    (Transcript.writeOut {} (host.out.styled .green "Expression is valid.".toList), .exit 0)

/-- How a validation ends that has written `t` and whose evaluation has the given outcome. -/
def endOfValidation (host : Host) (t : Transcript) : Evaluation → Transcript × Ending
  | .rejected fault => endWithMessage host (faultReport fault) t
  | .decided true _ => (t, .exit 0)
  | .decided false trace => endWithMessage host (Evaluation.decided false trace).summary t

lemma runCheck_eq {expression : Text} {outcome : Evaluation} (host : Host)
    (h : Dialect.standard.fault? (some expression) = .ok outcome.fault?) :
    runCheck expression host = endOfCheck host outcome := by
  rw [runCheck, h]
  cases outcome <;> rfl

/-- Up to its end, a validation has written nothing to the standard error. -/
lemma runValidate_eq {branch expression : Text} {host : Host} {outcome : Evaluation}
    (hinputs : (ValidateOptions.given branch expression).inputs host none
      = .ok ⟨branch, expression, [], true⟩)
    (hbranch : branch ≠ []) (hexpression : expression.isBlank = false)
    (h : Dialect.standard.evaluate (some expression) (some branch) = .ok outcome) :
    ∃ t : Transcript, t.err = "" ∧
      (Command.validate (.given branch expression)).run host none
        = endOfValidation host t outcome := by
  have hevaluation : evaluation Dialect.standard ⟨branch, expression, [], true⟩ = .ok outcome := by
    rw [evaluation, Validation.missingInput_eq_none_iff.mpr ⟨hbranch, hexpression⟩]
    exact congrArg (Except.mapError RunError.evaluation) h
  have herr := Console.err_write (c := host.console) rfl
    (log Dialect.standard ⟨branch, expression, [], true⟩) {}
  refine ⟨_, herr, ?_⟩
  rw [runValidate_of_inputs hinputs, result, hevaluation]
  cases outcome with
  | rejected fault => rfl
  | decided verdict trace => cases verdict <;> rfl

/-! ## Agreement -/

/-- **The check of an expression and the validation of a branch name by it agree** on whether the expression
is malformed and on what is said about it.  If it is not, the functions have been evaluated and have a
verdict. -/
structure Agree (err : Display) (branch expression : Text) (checked validated : Transcript × Ending) :
    Prop where
  rejected : checked.2 = .exit 1 ↔ validated.2 = .exit 1 ∧ validated.1.Reports err "Invalid Syntax"
  message : checked.2 = .exit 1 → checked.1.err = validated.1.err
  accepted : checked.2 = .exit 0 ↔
    validated.2 = .exit 0 ∨ validated.2 = .exit 1 ∧ validated.1.Reports err "Branch Invalid"
  evaluated : checked.2 = .exit 0 ↔ ∃ verdict trace,
    Dialect.standard.evaluate (some expression) (some branch) = .ok (.decided verdict trace)

section

variable {err : Display} {branch expression : Text} {checked validated : Transcript × Ending}

lemma agree_of_rejected {fault : Fault} (hchecked : checked.2 = .exit 1)
    (hvalidated : validated.2 = .exit 1) (hreports : validated.1.Reports err "Invalid Syntax")
    (hmessage : checked.1.err = validated.1.err)
    (h : Dialect.standard.evaluate (some expression) (some branch) = .ok (.rejected fault)) :
    Agree err branch expression checked validated where
  rejected := by simp [hchecked, hvalidated, hreports]
  message _ := hmessage
  accepted := by simp [hchecked, hvalidated, not_reports_both hreports]
  evaluated := by simp [hchecked, h]

lemma agree_of_decided {verdict : Bool} {trace : List CallAnswer} (hchecked : checked.2 = .exit 0)
    (hvalidated : validated.2 = .exit 0 ∨
      validated.2 = .exit 1 ∧ validated.1.Reports err "Branch Invalid")
    (h : Dialect.standard.evaluate (some expression) (some branch) = .ok (.decided verdict trace)) :
    Agree err branch expression checked validated where
  rejected := by
    have hnot : ¬ (validated.2 = .exit 1 ∧ validated.1.Reports err "Invalid Syntax") := by
      rintro ⟨hone, hreports⟩
      rcases hvalidated with hzero | ⟨-, hbranch⟩
      · simp [hzero] at hone
      · exact not_reports_both hreports hbranch
    simp [hchecked, hnot]
  message hone := by simp [hchecked] at hone
  accepted := by simp [hchecked, hvalidated]
  evaluated := by simp [hchecked, h]

end

/-- The two ends agree, whatever the outcome, where the standard errors show a message alike. -/
lemma agree_endOfCheck {branch expression : Text} {outcome : Evaluation} {host host' : Host}
    {t : Transcript} (hsame : host.err = host'.err) (ht : t.err = "")
    (h : Dialect.standard.evaluate (some expression) (some branch) = .ok outcome) :
    Agree host'.err branch expression (endOfCheck host outcome) (endOfValidation host' t outcome) := by
  cases outcome with
  | rejected fault =>
      have hmessage : (endOfCheck host (.rejected fault)).1.err
          = (endOfValidation host' t (.rejected fault)).1.err := by
        simp [endOfCheck, endOfValidation, endWithMessage, Transcript.writeErr, ht, hsame]
      exact agree_of_rejected rfl rfl (reports_faultReport ht fault) hmessage h
  | decided verdict trace =>
      cases verdict with
      | true => exact agree_of_decided rfl (.inl rfl) h
      | false => exact agree_of_decided rfl (.inr ⟨rfl, reports_resultReport ht _⟩) h

lemma exit_endOfCheck (host : Host) (outcome : Evaluation) :
    (endOfCheck host outcome).2 = .exit 0 ∨ (endOfCheck host outcome).2 = .exit 1 := by
  cases outcome with
  | rejected fault => exact .inr rfl
  | decided verdict trace => exact .inl rfl

/-- The check of an expression hangs on nothing around it but the streams that it writes to. -/
lemma runCheck_congr {host host' : Host} (hout : host.out = host'.out) (herr : host.err = host'.err)
    (expression : Text) : runCheck expression host = runCheck expression host' := by
  unfold runCheck endWithMessage
  rw [hout, herr]

/-- **The commands `check` and `validate` agree** on every expression that is not blank, does not start
with a dash and has no overlong number literal.  On given streams the check ends with one of the two
statuses, always in the same way, and agrees with the validation of every branch name by the expression
where the standard error is the same.  This is so for all command lines that a parser reads as such a check
and such a validation, the plain ones among them. -/
theorem check_agrees_with_validate (parser : CommandParser) (out err : Display) {expression : Text}
    (hblank : expression.isBlank = false) (hdash : expression.head? ≠ some '-')
    (hshort : ∀ call ∈ calls expression, Readable call.arguments) :
    ∃ checked : Transcript × Ending,
      IsCheck parser expression ["check".toList, expression] ∧
      (∀ (host : Host) (line : List Text), host.out = out → host.err = err →
        IsCheck parser expression line → CommandLine.run parser line host = .ok checked) ∧
      (checked.2 = .exit 0 ∨ checked.2 = .exit 1) ∧
      ∀ (branch : Text) (host : Host), branch ≠ [] → host.err = err →
        (∀ name, "INPUT_".toList <+: name → host.environment name = none) →
        IsValidation parser branch expression
          ["validate".toList, "--branch-name".toList, branch, "--validation-logic".toList, expression] ∧
        ∀ line, IsValidation parser branch expression line →
          ∃ validated, CommandLine.run parser line host = .ok validated ∧
            Agree err branch expression checked validated := by
  let streams : Host := { out := out, err := err }
  have hexpression : expression ≠ [] := by
    rintro rfl
    simp [Text.isBlank] at hblank
  have hevaluated : ∀ branch, ∃ outcome,
      Dialect.standard.evaluate (some expression) branch = .ok outcome ∧
        Dialect.standard.fault? (some expression) = .ok outcome.fault? :=
    Dialect.exists_evaluate_eq_ok hshort
  refine ⟨runCheck expression streams, parser.parse_check expression hdash, ?check, ?status, ?agree⟩
  case check =>
    intro host line hout herr hline
    rw [CommandLine.run, hline, ← runCheck_congr hout herr]
    rfl
  case status =>
    obtain ⟨outcome, -, hfault⟩ := hevaluated none
    rw [runCheck_eq streams hfault]
    exact exit_endOfCheck streams outcome
  case agree =>
    intro branch host hbranch herr henvironment
    refine ⟨parser.parse_validate branch expression, fun line hline => ?_⟩
    obtain ⟨outcome, hevaluate, hfault⟩ := hevaluated (some branch)
    have hinputs := inputs_of_options henvironment hbranch hexpression
    obtain ⟨t, ht, hrun⟩ := runValidate_eq hinputs hbranch hblank hevaluate
    refine ⟨endOfValidation host t outcome, ?_, ?_⟩
    · rw [CommandLine.run, hline, ← hrun]
      rfl
    · rw [runCheck_eq streams hfault, ← herr]
      exact agree_endOfCheck herr.symm ht hevaluate

/-- A command line that gives the expression before the branch name. -/
def hotfixLine : List Text :=
  ["validate".toList, "-e".toList, "startsWith('feature/')".toList, "-b".toList, "hotfix/1".toList]

/-- A branch name that is not approved: the check accepts the expression, and the validation ends with the
report on the branch. -/
theorem check_agrees_with_validate_not_approved :
    ∃ checked validated : Transcript × Ending,
      CommandLine.run .standard ["check".toList, "startsWith('feature/')".toList] plainHost
        = .ok checked ∧
      CommandLine.run .standard hotfixLine plainHost = .ok validated ∧
      validated.2 = .exit 1 ∧
      Agree plainHost.err "hotfix/1".toList "startsWith('feature/')".toList checked validated := by
  have hshort : ∀ call ∈ calls "startsWith('feature/')".toList, Readable call.arguments := by
    have hwidth : ∀ call ∈ calls "startsWith('feature/')".toList,
        ∀ a ∈ call.arguments, a.render.length ≤ mostDigits := by decide
    exact fun call hcall => readable_of_length_render (hwidth call hcall)
  obtain ⟨checked, hline, hcheck, -, hagree⟩ :=
    check_agrees_with_validate .standard plainHost.out plainHost.err (by decide) (by decide) hshort
  obtain ⟨-, hvalidate⟩ := hagree "hotfix/1".toList plainHost (by decide) rfl (fun _ _ => rfl)
  obtain ⟨validated, hrun, hagreed⟩ := hvalidate hotfixLine rfl
  have hended : (CommandLine.run .standard hotfixLine plainHost).map Prod.snd = .ok (.exit 1) := by
    decide +kernel
  rw [hrun] at hended
  exact ⟨checked, validated, hcheck plainHost _ rfl rfl hline, hrun, Except.ok.inj hended, hagreed⟩

end Command

end BranchPolicy
