import BranchPolicy.Proofs.Evaluation.Reference
import BranchPolicy.Proofs.Function.Standard
import BranchPolicy.Proofs.Shape.ConnectiveRuns

/-!
# Line breaks in what is reported

What an evaluation reports is built from fixed sentences, numbers, the names of registered functions
and parts of the expression.  With the standard functions and checks, only the last can bring a line
break along.

* `IsOneLine` — a text without a line break.
* `mem_of_mem_source`, `mem_of_mem_name` — a call brings no characters of its own.
* `isOneLine_of_check` — the standard checks quote connective marks and nothing else.
* `isOneLine_of_resolve` — a call that does not resolve is quoted in its fault.
* **`isOneLine_of_evaluate`** — of an expression on one line, no message and no line of the trace has
  a line break.
-/

namespace BranchPolicy

/-! ## Texts on one line -/

/-- A text without a line break. -/
def IsOneLine (s : String) : Prop :=
  '\n' ∉ s.toList

@[simp] lemma isOneLine_append {s t : String} :
    IsOneLine (s ++ t) ↔ IsOneLine s ∧ IsOneLine t := by
  simp [IsOneLine]

@[simp] lemma isOneLine_ofList {t : Text} : IsOneLine (String.ofList t) ↔ '\n' ∉ t := by
  simp [IsOneLine]

/-- A sentence that is written out has no line break when its characters have none. -/
lemma isOneLine_sentence {t : Text} (ht : t.contains '\n' = false) : IsOneLine (String.ofList t) := by
  rw [isOneLine_ofList]
  simpa using ht

lemma isOneLine_toString (n : Nat) : IsOneLine (toString n) := by
  rw [IsOneLine, Nat.toString_eq_repr, Nat.toList_repr]
  intro h
  exact absurd (Nat.isDigit_of_mem_toDigits (by decide) (by decide) h) (by decide)

lemma isOneLine_intercalate {s : String} {l : List String} (hs : IsOneLine s)
    (hl : ∀ t ∈ l, IsOneLine t) : IsOneLine (s.intercalate l) := by
  induction l with
  | nil =>
      rw [String.intercalate_nil]
      exact isOneLine_sentence rfl
  | cons t l ih =>
      obtain ⟨ht, hl⟩ := List.forall_mem_cons.mp hl
      by_cases hne : l = []
      · rwa [hne, String.intercalate_singleton]
      · rw [String.intercalate_cons_of_ne_nil hne]
        exact isOneLine_append.mpr ⟨isOneLine_append.mpr ⟨ht, hs⟩, ih hl⟩

/-! ## The characters of a call -/

namespace Expression

/-- The source of a call is part of the expression. -/
lemma mem_of_mem_source {expression : Text} {call : Call} (hcall : call ∈ calls expression)
    {c : Char} (hc : c ∈ call.source) : c ∈ expression := by
  have hsource : call.source ∈ (sourceGroups expression).flatten := by
    rw [← map_source_calls]
    exact List.mem_map_of_mem hcall
  rw [flatten_sourceGroups] at hsource
  obtain ⟨p, hp, htrim⟩ := List.mem_map.mp (List.mem_of_mem_filter hsource)
  rw [← text_scan none expression]
  exact Chain.mem_text_of_mem_items hp (Text.mem_of_mem_trim (htrim ▸ hc))

lemma mem_of_mem_name {expression : Text} {call : Call} (hcall : call ∈ calls expression)
    {c : Char} (hc : c ∈ call.name) : c ∈ expression := by
  refine mem_of_mem_source hcall ?_
  rw [calls_eq_map_parse] at hcall
  obtain ⟨t, ht, rfl⟩ := List.mem_map.mp hcall
  exact List.takeWhile_subset _ (Text.mem_of_mem_trim hc)

end Expression

/-! ## Faults in the shape -/

lemma isConnectiveMark_of_mem_connectiveRuns {t run : Text} (hrun : run ∈ connectiveRuns t) {c : Char}
    (hc : c ∈ run) : isConnectiveMark c = true := by
  induction t generalizing run with
  | nil => exact absurd hrun List.not_mem_nil
  | cons d t ih =>
      rw [connectiveRuns] at hrun
      split at hrun
      · next hd =>
          split at hrun
          · next run' runs _ hruns =>
              rcases List.mem_cons.mp hrun with rfl | hrun
              · rcases List.mem_cons.mp hc with rfl | hc
                · exact hd
                · exact ih (hruns ▸ List.mem_cons_self) hc
              · exact ih (hruns ▸ List.mem_cons_of_mem _ hrun) hc
          · rcases List.mem_cons.mp hrun with rfl | hrun
            · exact List.mem_singleton.mp hc ▸ hd
            · exact ih hrun hc
      · exact ih hrun hc

lemma isOneLine_of_runFault {t run : Text} (hrun : run ∈ connectiveRuns t) {fault : ShapeFault}
    (h : runFault run = some fault) : IsOneLine fault.message := by
  have hmarks : '\n' ∉ run := fun hc =>
    absurd (isConnectiveMark_of_mem_connectiveRuns hrun hc) (by decide)
  unfold runFault at h
  split at h
  · exact absurd h (by simp)
  · split at h
    · obtain rfl := Option.some.inj h
      exact isOneLine_sentence rfl
    · split at h
      · obtain rfl := Option.some.inj h
        exact isOneLine_sentence rfl
      · obtain rfl := Option.some.inj h
        show IsOneLine (_ ++ String.ofList run ++ _)
        simp only [isOneLine_append, isOneLine_ofList]
        exact ⟨⟨isOneLine_sentence rfl, hmarks⟩, isOneLine_sentence rfl⟩

lemma isOneLine_of_trimmedConnectivesFault {t : Text} {fault : ShapeFault}
    (h : trimmedConnectivesFault t = some fault) : IsOneLine fault.message := by
  unfold trimmedConnectivesFault at h
  cases hruns : (connectiveRuns t).findSome? runFault with
  | some runsFault =>
      obtain ⟨run, hrun, hfault⟩ := List.exists_of_findSome?_eq_some hruns
      have hquoted := isOneLine_of_runFault hrun hfault
      simp only [hruns] at h
      split_ifs at h <;> cases h
      -- five fixed sentences come before the fault of a run
      iterate 5 exact isOneLine_sentence rfl
      exact hquoted
  | none =>
      simp only [hruns] at h
      split_ifs at h <;> cases h <;> exact isOneLine_sentence rfl

lemma isOneLine_of_quotesFault {t : Text} {fault : ShapeFault} (h : quotesFault t = some fault) :
    IsOneLine fault.message := by
  have hstyle : ∀ style, quoteStyleFault style t = some fault → IsOneLine fault.message := by
    intro style h
    unfold quoteStyleFault at h
    split_ifs at h
    · cases h
      cases style <;> exact isOneLine_sentence rfl
    · cases h
      exact isOneLine_sentence rfl
  unfold quotesFault at h
  split at h
  · exact absurd h (by simp)
  · cases h
    exact isOneLine_sentence rfl
  · exact hstyle _ h
  · exact hstyle _ h

/-- The standard checks quote connective marks and nothing else. -/
lemma isOneLine_of_check {check : ShapeCheck} (hcheck : check ∈ ShapeCheck.standard) {t : Text}
    {fault : ShapeFault} (h : check t = some fault) : IsOneLine fault.message := by
  simp only [ShapeCheck.standard, List.mem_cons, List.not_mem_nil, or_false] at hcheck
  rcases hcheck with rfl | rfl | rfl | rfl
  · unfold parenthesesFault at h
    split_ifs at h <;> cases h <;> exact isOneLine_sentence rfl
  · exact isOneLine_of_quotesFault h
  · exact isOneLine_of_trimmedConnectivesFault h
  · unfold negativeNumbersFault at h
    split_ifs at h
    cases h
    exact isOneLine_sentence rfl

/-! ## Faults of calls -/

/-- The text that a fault of a call quotes: the call or its name. -/
def CallFault.quoted : CallFault → Text
  | .notUsable call => call
  | .missingArgument function => function
  | .argumentCount function _ _ => function
  | .argumentKind _ function => function

lemma isOneLine_of_quoted {fault : CallFault} (h : '\n' ∉ fault.quoted) :
    IsOneLine (Fault.call fault).message := by
  rw [← isOneLine_ofList] at h
  cases fault with
  | notUsable call =>
      show IsOneLine (_ ++ String.ofList call ++ _)
      simp only [isOneLine_append]
      exact ⟨⟨isOneLine_sentence rfl, h⟩, isOneLine_sentence rfl⟩
  | missingArgument function =>
      show IsOneLine (_ ++ String.ofList function ++ _)
      simp only [isOneLine_append]
      exact ⟨⟨isOneLine_sentence rfl, h⟩, isOneLine_sentence rfl⟩
  | argumentCount function actual expected =>
      have hexpected : IsOneLine (" or ".intercalate (expected.map toString)) := by
        refine isOneLine_intercalate (isOneLine_sentence rfl) fun s hs => ?_
        obtain ⟨n, -, rfl⟩ := List.mem_map.mp hs
        exact isOneLine_toString n
      show IsOneLine (_ ++ String.ofList function ++ _ ++ toString actual ++ _ ++
        " or ".intercalate (expected.map toString) ++ _)
      simp only [isOneLine_append]
      refine ⟨⟨⟨⟨⟨⟨?_, h⟩, ?_⟩, isOneLine_toString actual⟩, ?_⟩, hexpected⟩, ?_⟩
      all_goals exact isOneLine_sentence rfl
  | argumentKind position function =>
      show IsOneLine (_ ++ toString position ++ _ ++ String.ofList function ++ _)
      simp only [isOneLine_append]
      refine ⟨⟨⟨⟨?_, isOneLine_toString position⟩, ?_⟩, h⟩, ?_⟩
      all_goals exact isOneLine_sentence rfl

/-- A fault of a call quotes the call or its name, and numbers. -/
lemma isOneLine_of_resolve {r : Registry} {call : Call} (hrender : '\n' ∉ call.render)
    (hname : '\n' ∉ call.name) {fault : Fault} (h : r.resolve call = .error (.fault fault)) :
    IsOneLine fault.message := by
  rw [Registry.resolve_eq] at h
  split_ifs at h
  · cases h
    exact isOneLine_of_quoted hrender
  · cases h
    exact isOneLine_of_quoted hname
  · cases h
    refine isOneLine_of_quoted ?_
    unfold arityFault
    split
    · exact hname
    · exact hname
  · obtain ⟨position, rfl⟩ := exists_argumentKind_of_chooseOverload h
    exact isOneLine_of_quoted hname

/-! ## Outcomes -/

lemma isOneLine_line {a : CallAnswer} (h : '\n' ∉ a.signature.render) : IsOneLine a.line := by
  rw [CallAnswer.line, isOneLine_append, isOneLine_append, isOneLine_ofList]
  refine ⟨⟨h, isOneLine_sentence rfl⟩, ?_⟩
  cases a.answer <;> exact isOneLine_sentence rfl

lemma Standard.not_mem_render_signature : ∀ o ∈ overloads, '\n' ∉ o.signature.render := by
  decide

namespace Dialect

variable {expression : Text}

lemma isOneLine_of_firstFault (hline : '\n' ∉ expression) {fault : Fault}
    (h : FirstFault standard expression fault) : IsOneLine fault.message := by
  rcases h with ⟨hsplit, -, hfailed⟩ | ⟨-, hsplit, -, hfailed⟩
  · next before after check shapeFault =>
      have hcheck : check ∈ standard.checks := by simp [hsplit]
      exact isOneLine_of_check hcheck hfailed
  · next before after call =>
      have hcall : call ∈ Expression.calls expression := by simp [hsplit]
      refine isOneLine_of_resolve (fun hc => hline ?_) (fun hc => hline ?_) hfailed
      · rw [Expression.render_eq_source_of_mem_calls hcall] at hc
        exact Expression.mem_of_mem_source hcall hc
      · exact Expression.mem_of_mem_name hcall hc

lemma isOneLine_of_dispatch {branch : Text} {call : Call} {rc : ResolvedCall} {answer : CallAnswer}
    (hrc : standard.resolveCall call = .ok rc) (h : dispatch branch rc = .ok answer) :
    IsOneLine answer.line := by
  obtain ⟨-, hres⟩ := resolveCall_eq_ok_iff.mp hrc
  obtain ⟨hmem, -⟩ := Registry.mem_overloads_standard_iff.mp (resolves_of_resolve hres).registered
  rw [dispatch] at h
  split at h
  · obtain rfl := Except.ok.inj h
    exact isOneLine_line (Standard.not_mem_render_signature _ hmem)
  · exact absurd h (by simp)

/-- **An expression on one line is reported on one line**, by the standard functions and checks:
neither the message of its fault nor a line of its trace has a line break. -/
theorem isOneLine_of_evaluate (hline : '\n' ∉ expression) {branch : Option Text} {e : Evaluation}
    (h : standard.evaluate (some expression) branch = .ok e) :
    (∀ fault, e.fault? = some fault → IsOneLine fault.message) ∧ ∀ a ∈ e.trace, IsOneLine a.line := by
  rw [evaluate] at h
  split at h
  · next fault hplan =>
      obtain rfl := Except.ok.inj h
      refine ⟨fun fault' hfault => ?_, fun a ha => absurd ha List.not_mem_nil⟩
      obtain rfl := Option.some.inj hfault
      exact isOneLine_of_firstFault hline (plan_eq_fault_iff.mp hplan)
  · exact absurd h (by simp)
  · next plan hplan =>
      obtain ⟨-, hresolved⟩ := plan_eq_ok_iff.mp hplan
      obtain ⟨answers, hdispatched, rfl⟩ := follow_eq_ok_iff.mp h
      refine ⟨fun fault hfault => absurd hfault (by simp [Evaluation.fault?]), fun a ha => ?_⟩
      obtain ⟨lines, hlines, ha⟩ := List.mem_flatten.mp ha
      obtain ⟨rcs, hrcs, hanswers⟩ := Traversal.exists_of_mem_right hdispatched hlines
      obtain ⟨rc, hrc, hanswer⟩ := Traversal.exists_of_mem_right hanswers ha
      obtain ⟨clause, -, hcalls⟩ := Traversal.exists_of_mem_right hresolved hrcs
      obtain ⟨call, -, hcall⟩ := Traversal.exists_of_mem_right hcalls hrc
      exact isOneLine_of_dispatch hcall hanswer

end Dialect

end BranchPolicy
