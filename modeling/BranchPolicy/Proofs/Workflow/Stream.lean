import BranchPolicy.Proofs.Evaluation.LineBreaks
import BranchPolicy.Proofs.Text.ControlSequence
import BranchPolicy.Proofs.Workflow.Run

/-!
# What a console prints

Without an output file, an output is set by a command, which is a line like any other.  The workflow
takes every line that begins like a command for one, whoever has written it.  How the stream shows a line is
known as far as it leaves out nothing but control sequences.

* `Display.shown_eq_self` — a text without escape characters is shown as it is, on every stream.
* `Console.stream` — the stream that the lines of a console go to.
* `LogEntry.text` — an entry as it is printed.
* **`stream_write`** — a console prints the texts of a log one after the other.
* `verdictCommands` — the lines of a text that begin like the command for the verdict.
* `verdictCommands_append_break`, `verdictCommands_flatMap_append` — they are found line by line.
* `IsCommandFree` — a text without such lines, on every stream.
* **`isCommandFree_summary`** — a report of messages and answers without line breaks has none.
-/

namespace BranchPolicy

/-- **Every stream shows a text without escape characters as it is.** -/
lemma Display.shown_eq_self (d : Display) {t : Text} (ht : '\x1b' ∉ t) : d.shown t = t :=
  (d.strips t).eq_self ht

/-! ## Printed entries -/

/-- A line as a stream holds it. -/
def lineText (d : Display) (line : String) : Text :=
  d.shown line.toList ++ ['\n']

lemma lineText_eq_self (d : Display) {line : String} (hline : '\x1b' ∉ line.toList) :
    lineText d line = line.toList ++ ['\n'] := by
  rw [lineText, d.shown_eq_self hline]

/-- An entry as a console prints it.  An output goes to the output file if there is one. -/
def LogEntry.text (c : Console) : LogEntry → Text
  | .line content => lineText c.display content
  | .output name value =>
    if c.hasOutputFile then [] else lineText c.display ("::set-output name=" ++ name ++ "::" ++ value)

namespace Console

variable {c : Console}

/-- The stream that the lines of a console go to. -/
def stream (c : Console) (t : Transcript) : String :=
  if c.toErr then t.err else t.out

lemma stream_putLine (line : String) (t : Transcript) :
    c.stream (c.putLine line t) = c.stream t ++ String.ofList (lineText c.display line) := by
  rw [stream, stream, putLine, lineText, String.ofList_append, ← String.append_assoc]
  cases c.toErr <;> rfl

lemma stream_append (line : String) (t : Transcript) : c.stream (t.append line) = c.stream t := rfl

/-- **A console prints the texts of a log** one after the other. -/
theorem stream_write (log : List LogEntry) (t : Transcript) :
    c.stream (c.write log t) = c.stream t ++ String.ofList (log.flatMap (LogEntry.text c)) := by
  induction log generalizing t with
  | nil => simp [write]
  | cons e log ih =>
      have hput : c.stream (c.put t e) = c.stream t ++ String.ofList (e.text c) := by
        cases e with
        | line content => exact stream_putLine content t
        | output name value =>
            rw [put, emit, LogEntry.text]
            split
            · rw [stream_append, String.ofList_nil, String.append_empty]
            · exact stream_putLine _ t
      rw [write_cons, ih, hput, List.flatMap_cons, String.ofList_append, String.append_assoc]

end Console

/-! ## Commands among the lines -/

/-- The lines of a text that begin like the command for the verdict. -/
def verdictCommands (t : Text) : List Text :=
  (t.splitOn '\n').filter ("::set-output name=valid-branch::".toList.isPrefixOf ·)

@[simp] lemma verdictCommands_nil : verdictCommands [] = [] := by
  decide

lemma verdictCommands_append_break (s t : Text) :
    verdictCommands (s ++ '\n' :: t) = verdictCommands s ++ verdictCommands t := by
  rw [verdictCommands, List.splitOn, List.splitOnP_append_cons s t (by decide), List.filter_append]
  rfl

lemma verdictCommands_lineText (d : Display) (line : String) :
    verdictCommands (lineText d line) = verdictCommands (d.shown line.toList) := by
  rw [lineText, verdictCommands_append_break, verdictCommands_nil, List.append_nil]

lemma verdictCommands_lineText_append (d : Display) (line : String) (t : Text) :
    verdictCommands (lineText d line ++ t) = verdictCommands (lineText d line) ++ verdictCommands t := by
  rw [verdictCommands_lineText, lineText, List.append_assoc, List.singleton_append,
    verdictCommands_append_break]

/-- A log ends its last line, so that what is printed after it goes into no line of the log. -/
lemma verdictCommands_flatMap_append (c : Console) (log : List LogEntry) (t : Text) :
    verdictCommands (log.flatMap (LogEntry.text c) ++ t)
      = verdictCommands (log.flatMap (LogEntry.text c)) ++ verdictCommands t := by
  induction log generalizing t with
  | nil => simp
  | cons e log ih =>
      have hentry : ∀ t, verdictCommands (e.text c ++ t)
          = verdictCommands (e.text c) ++ verdictCommands t := by
        intro t
        cases e with
        | line content => exact verdictCommands_lineText_append _ _ t
        | output name value =>
            rw [LogEntry.text]
            split
            · simp
            · exact verdictCommands_lineText_append _ _ t
      rw [List.flatMap_cons, List.append_assoc, hentry, hentry, ih, List.append_assoc]

/-- A log whose entries are no commands for the verdict sets none. -/
lemma verdictCommands_flatMap_eq_nil {c : Console} {log : List LogEntry}
    (h : ∀ e ∈ log, verdictCommands (e.text c) = []) :
    verdictCommands (log.flatMap (LogEntry.text c)) = [] := by
  induction log with
  | nil => exact verdictCommands_nil
  | cons e log ih =>
      obtain ⟨he, hlog⟩ := List.forall_mem_cons.mp h
      have hone := verdictCommands_flatMap_append c [e] (log.flatMap (LogEntry.text c))
      simp only [List.flatMap_cons, List.flatMap_nil, List.append_nil] at hone
      rw [List.flatMap_cons, hone, he, ih hlog, List.append_nil]

/-! ## Reports

A report indents what it quotes.  Nothing that it quotes can begin a line unless it brings the line
break along. -/

/-- Whatever control sequences are left out of a text, no line of what is left begins like the command for the
verdict. -/
def IsCommandFree (t : Text) : Prop :=
  ∀ u, Text.Strips t u → verdictCommands u = []

lemma isCommandFree_of_plain {t : Text} (hplain : '\x1b' ∉ t) (ht : verdictCommands t = []) :
    IsCommandFree t := by
  intro u hu
  rw [hu.eq_self hplain, ht]

/-- Two lines are rid of their control sequences each. -/
lemma IsCommandFree.append_break {s t : Text} (hs : IsCommandFree s) (ht : IsCommandFree t) :
    IsCommandFree (s ++ '\n' :: t) := by
  intro u hu
  obtain ⟨s', t', rfl, hs', ht'⟩ := hu.append_break
  rw [verdictCommands_append_break, hs s' hs', ht t' ht', List.append_nil]

/-- What stands behind a tabulator begins no line. -/
lemma isCommandFree_tab {t : Text} (ht : '\n' ∉ t) : IsCommandFree ('\t' :: t) := by
  intro u hu
  obtain ⟨u', rfl, hu'⟩ := hu.cons (by decide)
  have hline : '\n' ∉ '\t' :: u' := by
    rw [List.mem_cons, not_or]
    exact ⟨by decide, fun hmem => ht (hu'.mem hmem)⟩
  rw [verdictCommands, List.splitOn, List.splitOnP_eq_singleton]
  · rfl
  · intro c hc
    simpa using fun h : c = '\n' => hline (h ▸ hc)

/-- Lines that are indented begin with no command. -/
lemma isCommandFree_indented {lines : List String} (hlines : ∀ line ∈ lines, IsOneLine line) :
    IsCommandFree ('\t' :: ("\n\t".intercalate lines).toList) := by
  induction lines with
  | nil => exact isCommandFree_tab (by simp)
  | cons line lines ih =>
      obtain ⟨hline, hlines⟩ := List.forall_mem_cons.mp hlines
      by_cases hne : lines = []
      · rw [hne, String.intercalate_singleton]
        exact isCommandFree_tab hline
      · have hsplit : '\t' :: ("\n\t".intercalate (line :: lines)).toList
            = ('\t' :: line.toList) ++ '\n' :: '\t' :: ("\n\t".intercalate lines).toList := by
          rw [String.intercalate_cons_of_ne_nil hne]
          simp
        rw [hsplit]
        exact (isCommandFree_tab hline).append_break (ih hlines)

lemma isCommandFree_faultReport {fault : Fault} (hfault : IsOneLine fault.message) :
    IsCommandFree (faultReport fault).toList := by
  have hsplit : (faultReport fault).toList
      = "Invalid Syntax".toList ++ '\n' :: '\t' :: fault.message.toList := by
    simp [faultReport]
  have htitle : IsCommandFree "Invalid Syntax".toList :=
    isCommandFree_of_plain (by decide) (by decide)
  rw [hsplit]
  exact htitle.append_break (isCommandFree_tab hfault)

lemma isCommandFree_resultReport {title : String} {lines : List String}
    (htitle : IsCommandFree title.toList) (hlines : ∀ line ∈ lines, IsOneLine line) :
    IsCommandFree (resultReport title lines).toList := by
  have hsplit : (resultReport title lines).toList
      = title.toList ++ '\n' :: ([] ++ '\n' :: ("Function Results:".toList ++
          '\n' :: '\t' :: ("\n\t".intercalate lines).toList)) := by
    simp [resultReport]
  have hblank : IsCommandFree [] := isCommandFree_of_plain (by decide) (by decide)
  have hheading : IsCommandFree "Function Results:".toList :=
    isCommandFree_of_plain (by decide) (by decide)
  rw [hsplit]
  exact htitle.append_break
    (hblank.append_break (hheading.append_break (isCommandFree_indented hlines)))

/-- **A report of messages and answers on one line each has no line that begins like the command.** -/
theorem isCommandFree_summary {e : Evaluation}
    (hfault : ∀ fault, e.fault? = some fault → IsOneLine fault.message)
    (htrace : ∀ a ∈ e.trace, IsOneLine a.line) : IsCommandFree e.summary.toList := by
  cases e with
  | rejected fault => exact isCommandFree_faultReport (hfault fault rfl)
  | decided verdict trace =>
      cases verdict with
      | false =>
          have htitle : IsCommandFree "Branch Invalid".toList :=
            isCommandFree_of_plain (by decide) (by decide)
          refine isCommandFree_resultReport htitle fun line hline => ?_
          obtain ⟨a, ha, rfl⟩ := List.mem_map.mp hline
          exact htrace a (List.mem_of_mem_filter ha)
      | true =>
          have htitle : IsCommandFree "Branch Valid".toList :=
            isCommandFree_of_plain (by decide) (by decide)
          refine isCommandFree_resultReport htitle fun line hline => ?_
          obtain ⟨a, ha, rfl⟩ := List.mem_map.mp hline
          exact htrace a ha

end BranchPolicy
