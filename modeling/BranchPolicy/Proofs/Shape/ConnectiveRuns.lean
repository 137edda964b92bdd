import BranchPolicy.Proofs.Expression.Spread

/-!
# The runs of connective marks as a scan

The check of the connectives collects the longest runs of marks of a text and looks at each.  What
it accepts is also accepted by a scan with four states, and a scan can be taken through a text piece
by piece.

* `RunState`, `RunState.step` — the scan.
* **`runs_iff`** — every run is a connective exactly when the scan ends in a complete state.
* `hasGoodRuns_append_cons` — a character that is no mark separates runs.
* `even_count` — then the marks of either kind come in pairs.
* `isComplete_of_mem`, `isComplete_spaced`, `isComplete_text` — the scan of spread calls, of a chain
  printed with spaces, and of a chain of pieces without marks.
-/

namespace BranchPolicy

open Expression (Loose IsGap Spread)
open Text (isBlank isBlankChar)

/-- What the scan knows of the run it stands in: there is none, it is one mark long, it is a
connective, or it cannot become one. -/
inductive RunState where
  | apart
  | half (k : Connective)
  | full
  | broken
  deriving DecidableEq

namespace RunState

/-- The state after one more character. -/
def step (s : RunState) (c : Char) : RunState :=
  match s, Connective.ofMark? c with
  | apart, none => apart
  | apart, some k => half k
  | half j, some k => if j = k then full else broken
  | half _, none => broken
  | full, none => apart
  | full, some _ => broken
  | broken, _ => broken

/-- Whether no run has been found that is not a connective. -/
def isComplete (s : RunState) : Prop :=
  s = apart ∨ s = full

/-- The state after a text. -/
def after (s : RunState) (t : Text) : RunState :=
  t.foldl step s

lemma after_append (s : RunState) (x y : Text) : s.after (x ++ y) = (s.after x).after y :=
  List.foldl_append

@[simp] lemma after_nil (s : RunState) : s.after [] = s := rfl

@[simp] lemma after_cons (s : RunState) (c : Char) (t : Text) :
    s.after (c :: t) = (s.step c).after t := rfl

@[simp] lemma after_broken (t : Text) : broken.after t = broken := by
  induction t with
  | nil => rfl
  | cons c t ih => rw [after_cons]; exact ih

lemma not_isComplete_broken : ¬ broken.isComplete := by simp [isComplete]

lemma step_mark (s : RunState) (k : Connective) : s.step k.mark =
    match s with
    | apart => half k
    | half j => if j = k then full else broken
    | full => broken
    | broken => broken := by
  cases s <;> simp [step]

lemma step_of_not_mark (s : RunState) {c : Char} (hc : isConnectiveMark c = false) : s.step c =
    match s with
    | apart => apart
    | half _ => broken
    | full => apart
    | broken => broken := by
  cases s <;> simp [step, Connective.ofMark?_eq_none hc]

end RunState

/-! ## Runs -/

/-- Whether every run of connective marks is a connective. -/
def HasGoodRuns (t : Text) : Prop :=
  ∀ run ∈ connectiveRuns t, ∃ k : Connective, run = k.operator

lemma runFault_eq_none_iff {run : Text} : runFault run = none ↔ ∃ k : Connective, run = k.operator := by
  have hk : (∃ k : Connective, run = k.operator) ↔ run = andOperator ∨ run = orOperator := by
    constructor
    · rintro ⟨k, rfl⟩
      cases k
      · exact Or.inl rfl
      · exact Or.inr rfl
    · rintro (rfl | rfl)
      · exact ⟨.and, rfl⟩
      · exact ⟨.or, rfl⟩
  rw [hk, runFault]
  split
  · next h => simpa using h
  · next h =>
      simp only [Bool.or_eq_true, beq_iff_eq] at h
      simp only [h, iff_false]
      split <;> (try split) <;> simp

lemma findSome?_runFault_eq_none_iff {t : Text} :
    (connectiveRuns t).findSome? runFault = none ↔ HasGoodRuns t := by
  simp only [List.findSome?_eq_none_iff, runFault_eq_none_iff, HasGoodRuns]

instance : DecidablePred HasGoodRuns :=
  fun _ => decidable_of_iff _ findSome?_runFault_eq_none_iff

/-- A mark before a character that is none is a run of its own. -/
lemma connectiveRuns_mark_alone (k : Connective) {t : Text}
    (ht : ∀ c ∈ t.head?, isConnectiveMark c = false) :
    connectiveRuns (k.mark :: t) = [k.mark] :: connectiveRuns t := by
  have hnext : t.head?.any isConnectiveMark = false := by
    cases h : t.head? with
    | none => rfl
    | some c => exact ht c h
  rw [connectiveRuns, if_pos k.isConnectiveMark_mark, hnext]

lemma connectiveRuns_mark_mark {j k : Connective} {t run : Text} {runs : List Text}
    (h : connectiveRuns (k.mark :: t) = run :: runs) :
    connectiveRuns (j.mark :: k.mark :: t) = (j.mark :: run) :: runs := by
  rw [connectiveRuns, if_pos j.isConnectiveMark_mark, h]
  simp [k.isConnectiveMark_mark]

lemma exists_connectiveRuns_mark (k : Connective) (t : Text) :
    ∃ run runs, connectiveRuns (k.mark :: t) = (k.mark :: run) :: runs := by
  rw [connectiveRuns, if_pos k.isConnectiveMark_mark]
  cases t.head?.any isConnectiveMark with
  | false => exact ⟨[], _, rfl⟩
  | true =>
      cases connectiveRuns t with
      | nil => exact ⟨[], _, rfl⟩
      | cons run runs => exact ⟨run, runs, rfl⟩

section HasGoodRuns

variable {c : Char} {t : Text} {j k : Connective}

lemma hasGoodRuns_nil : HasGoodRuns [] := by
  intro run hrun
  exact absurd hrun List.not_mem_nil

lemma hasGoodRuns_of_not_mark (hc : isConnectiveMark c = false) :
    HasGoodRuns (c :: t) ↔ HasGoodRuns t := by
  rw [HasGoodRuns, connectiveRuns, if_neg (by simp [hc])]
  rfl

lemma not_hasGoodRuns_mark (ht : ∀ c ∈ t.head?, isConnectiveMark c = false) :
    ¬ HasGoodRuns (k.mark :: t) := by
  intro h
  obtain ⟨i, hi⟩ := h [k.mark] (by rw [connectiveRuns_mark_alone k ht]; exact List.mem_cons_self)
  rw [i.operator_eq] at hi
  exact absurd (congrArg List.length hi) (by simp)

/-- Two equal marks are a connective, unless more follow. -/
lemma hasGoodRuns_mark_mark (ht : ∀ c ∈ t.head?, isConnectiveMark c = false) :
    HasGoodRuns (k.mark :: k.mark :: t) ↔ HasGoodRuns t := by
  have hruns := connectiveRuns_mark_mark (j := k) (connectiveRuns_mark_alone k ht)
  rw [HasGoodRuns, hruns, List.forall_mem_cons, ← k.operator_eq]
  exact ⟨fun h => h.2, fun h => ⟨⟨k, rfl⟩, h⟩⟩

lemma not_hasGoodRuns_of_ne (hne : j ≠ k) : ¬ HasGoodRuns (j.mark :: k.mark :: t) := by
  intro h
  obtain ⟨run, runs, hruns⟩ := exists_connectiveRuns_mark k t
  obtain ⟨i, hi⟩ := h (j.mark :: k.mark :: run) (by simp [connectiveRuns_mark_mark hruns])
  simp only [i.operator_eq, List.cons.injEq] at hi
  revert hne hi
  cases i <;> cases j <;> cases k <;> simp [Connective.mark]

lemma not_hasGoodRuns_three : ¬ HasGoodRuns (k.mark :: k.mark :: j.mark :: t) := by
  intro h
  obtain ⟨run, runs, hruns⟩ := exists_connectiveRuns_mark j t
  have hfirst := connectiveRuns_mark_mark (j := k) (connectiveRuns_mark_mark (j := k) hruns)
  obtain ⟨i, hi⟩ := h (k.mark :: k.mark :: j.mark :: run) (by simp [hfirst])
  rw [i.operator_eq] at hi
  exact absurd (congrArg List.length hi) (by simp)

end HasGoodRuns

/-- The runs of a text and the scan of it agree in the three states that can still end well. -/
lemma runs_iff_aux (t : Text) :
    (HasGoodRuns t ↔ (RunState.apart.after t).isComplete) ∧
      (∀ k : Connective, HasGoodRuns (k.mark :: t) ↔ ((RunState.half k).after t).isComplete) ∧
      ∀ k : Connective, HasGoodRuns (k.mark :: k.mark :: t) ↔ (RunState.full.after t).isComplete := by
  -- what the scan has read of the run it stands in is put back in front of the text
  induction t with
  | nil =>
      have hhead : ∀ c ∈ ([] : Text).head?, isConnectiveMark c = false := by simp
      refine ⟨?_, fun k => ?_, fun k => ?_⟩
      · simp [hasGoodRuns_nil, RunState.isComplete]
      · simp [not_hasGoodRuns_mark hhead, RunState.isComplete]
      · simp [hasGoodRuns_mark_mark hhead, hasGoodRuns_nil, RunState.isComplete]
  | cons c t ih =>
      obtain ⟨hapart, hhalf, hfull⟩ := ih
      cases hc : isConnectiveMark c with
      | false =>
          have hhead : ∀ d ∈ (c :: t).head?, isConnectiveMark d = false := by
            intro d hd
            obtain rfl := Option.some.inj hd
            exact hc
          simp only [RunState.after_cons, RunState.step_of_not_mark _ hc, RunState.after_broken,
            RunState.not_isComplete_broken, not_hasGoodRuns_mark hhead,
            hasGoodRuns_mark_mark hhead, hasGoodRuns_of_not_mark hc, hapart, implies_true, and_self]
      | true =>
          obtain ⟨k, rfl⟩ := isConnectiveMark_iff.mp hc
          simp only [RunState.after_cons, RunState.step_mark]
          refine ⟨hhalf k, fun j => ?_, fun j => ?_⟩
          · by_cases hjk : j = k
            · rw [if_pos hjk, hjk]
              exact hfull k
            · simp [hjk, not_hasGoodRuns_of_ne hjk, RunState.not_isComplete_broken]
          · simp [not_hasGoodRuns_three, RunState.not_isComplete_broken]

/-- **Every run of a text is a connective exactly when the scan ends in a complete state.** -/
theorem runs_iff {t : Text} :
    (connectiveRuns t).findSome? runFault = none ↔ (RunState.apart.after t).isComplete :=
  findSome?_runFault_eq_none_iff.trans (runs_iff_aux t).1

/-- **A character that is no mark separates runs.** -/
lemma hasGoodRuns_append_cons {c : Char} (hc : isConnectiveMark c = false) (x y : Text) :
    HasGoodRuns (x ++ c :: y) ↔ HasGoodRuns x ∧ HasGoodRuns y := by
  rw [(runs_iff_aux _).1, (runs_iff_aux x).1, (runs_iff_aux y).1, RunState.after_append,
    RunState.after_cons, RunState.step_of_not_mark _ hc]
  cases RunState.apart.after x <;> simp [RunState.isComplete]

lemma hasGoodRuns_of_forall_not_mark {t : Text} (ht : ∀ c ∈ t, isConnectiveMark c = false) :
    HasGoodRuns t := by
  induction t with
  | nil => exact hasGoodRuns_nil
  | cons c t ih =>
      rw [hasGoodRuns_of_not_mark (ht c List.mem_cons_self)]
      exact ih fun d hd => ht d (List.mem_cons_of_mem _ hd)

/-! ## Marks in pairs -/

/-- A scan that ends in a complete state has read marks of either kind in pairs, counting the one
that it was half through. -/
lemma count_mod_two_of_isComplete {s : RunState} {t : Text} (h : (s.after t).isComplete)
    (k : Connective) : (t.count k.mark + if s = .half k then 1 else 0) % 2 = 0 := by
  induction t generalizing s with
  | nil =>
      rcases h with h | h
      all_goals
        rw [RunState.after_nil] at h
        simp [h]
  | cons c t ih =>
      rw [RunState.after_cons] at h
      have hrest := ih h
      cases hc : isConnectiveMark c with
      | false =>
          rw [List.count_cons_of_ne (ne_mark_of_not_mark hc k)]
          rw [s.step_of_not_mark hc] at h hrest
          cases s with
          | half j => simp [RunState.not_isComplete_broken] at h
          | broken => simp [RunState.not_isComplete_broken] at h
          | apart => simpa using hrest
          | full => simpa using hrest
      | true =>
          obtain ⟨i, rfl⟩ := isConnectiveMark_iff.mp hc
          have hcount : (i.mark :: t).count k.mark = t.count k.mark + if i = k then 1 else 0 := by
            rw [List.count_cons]
            cases i <;> cases k <;> rfl
          rw [hcount]
          rw [s.step_mark] at h hrest
          cases s with
          | full => simp [RunState.not_isComplete_broken] at h
          | broken => simp [RunState.not_isComplete_broken] at h
          | apart =>
              simp only [RunState.half.injEq, reduceCtorEq, if_false] at hrest ⊢
              exact hrest
          | half j =>
              by_cases hji : j = i
              · subst hji
                simp only [if_true, reduceCtorEq, if_false, RunState.half.injEq] at hrest ⊢
                split <;> omega
              · simp [hji, RunState.not_isComplete_broken] at h

/-- **A text whose runs are connectives has an even number of either mark.** -/
theorem even_count {t : Text} (h : (RunState.apart.after t).isComplete) (k : Connective) :
    t.count k.mark % 2 = 0 := by
  simpa using count_mod_two_of_isComplete h k

/-! ## Stretches of a text

A stretch without marks ends a run, and a connective is a run when it follows no mark.  A run that is
half read before a gap stays broken for good, because a gap starts with a blank or with two marks. -/

namespace RunState

lemma isComplete_after_of_not_mark {s : RunState} {t : Text} (hs : s.isComplete)
    (ht : ∀ c ∈ t, isConnectiveMark c = false) : (s.after t).isComplete := by
  induction t generalizing s with
  | nil => exact hs
  | cons c t ih =>
      refine ih ?_ fun d hd => ht d (List.mem_cons_of_mem _ hd)
      rw [s.step_of_not_mark (ht c List.mem_cons_self)]
      rcases hs with rfl | rfl <;> exact Or.inl rfl

/-- A stretch without marks leaves the scan apart from any run. -/
lemma after_of_not_mark {s : RunState} {t : Text} (hs : s.isComplete) (hne : t ≠ [])
    (ht : ∀ c ∈ t, isConnectiveMark c = false) : s.after t = apart := by
  induction t generalizing s with
  | nil => exact absurd rfl hne
  | cons c t ih =>
      have hstep : s.step c = apart := by
        rw [s.step_of_not_mark (ht c List.mem_cons_self)]
        rcases hs with rfl | rfl <;> rfl
      rw [after_cons, hstep]
      by_cases hnil : t = []
      · rw [hnil, after_nil]
      · exact ih (Or.inl rfl) hnil fun d hd => ht d (List.mem_cons_of_mem _ hd)

lemma after_operator (s : RunState) (k : Connective) :
    s.after k.operator = if s = apart then full else broken := by
  rw [k.operator_eq, after_cons, after_cons, after_nil, s.step_mark]
  cases s with
  | half j =>
      by_cases hjk : j = k
      · simp [hjk, step_mark]
      · simp [hjk, step_mark]
  | apart => simp [step_mark]
  | full => simp [step_mark]
  | broken => simp [step_mark]

/-- What is loose leaves no run half read, unless one is half read before it. -/
lemma after_loose_ne_half {s : RunState} {g : Text} (hg : Loose g) (hs : ∀ k, s ≠ half k)
    (k : Connective) : s.after g ≠ half k := by
  have hblank : ∀ {s : RunState} {b : Text}, isBlank b = true → (∀ k, s ≠ half k) →
      ∀ k, s.after b ≠ half k := by
    intro s b hb hs
    induction b generalizing s with
    | nil => exact hs
    | cons c b ih =>
        rw [Text.isBlank_cons, Bool.and_eq_true] at hb
        refine ih hb.2 fun k => ?_
        rw [s.step_of_not_mark (isConnectiveMark_of_isBlankChar hb.1)]
        cases s <;> simp
  induction hg generalizing s with
  | blank hb => exact hblank hb hs k
  | @operator b g hb j hg ih =>
      rw [after_append, after_append]
      refine ih fun i => ?_
      rw [after_operator]
      split <;> simp

lemma after_gap_of_half {g : Text} (hg : IsGap g) (k : Connective) : (half k).after g = broken := by
  obtain ⟨hb, j, hg⟩ := hg
  rename_i b g
  rw [after_append]
  cases b with
  | nil =>
      rw [after_nil, after_append, after_operator, if_neg (by simp), after_broken]
  | cons c b =>
      rw [Text.isBlank_cons, Bool.and_eq_true] at hb
      rw [after_cons, step_of_not_mark _ (isConnectiveMark_of_isBlankChar hb.1), after_broken,
        after_broken]

/-- A call that starts right after a connective is read as if it stood alone. -/
lemma after_eq_apart_after {s : RunState} {c : Text} (hs : s.isComplete) (hne : c ≠ [])
    (h : s.after c ≠ broken) : s.after c = apart.after c := by
  rcases hs with rfl | rfl
  · rfl
  · cases c with
    | nil => exact absurd rfl hne
    | cons d c =>
        cases hd : isConnectiveMark d with
        | false =>
            rw [after_cons, after_cons, step_of_not_mark _ hd, step_of_not_mark _ hd]
        | true =>
            obtain ⟨k, rfl⟩ := isConnectiveMark_iff.mp hd
            rw [after_cons, step_mark, after_broken] at h
            exact absurd rfl h

lemma ne_broken_of_isComplete_after {s : RunState} {t : Text} (h : (s.after t).isComplete) :
    s ≠ broken := by
  rintro rfl
  rw [after_broken] at h
  exact not_isComplete_broken h

lemma isComplete_of_ne {s : RunState} (hhalf : ∀ k, s ≠ half k) (hbroken : s ≠ broken) :
    s.isComplete := by
  cases s with
  | half k => exact absurd rfl (hhalf k)
  | broken => exact absurd rfl hbroken
  | apart => exact Or.inl rfl
  | full => exact Or.inr rfl

end RunState

/-! ## Calls and chains -/

/-- **The runs inside each call are connectives when those of the spread calls are.** -/
theorem isComplete_of_mem {s : RunState} {cs : List Text} {t : Text} (h : Spread cs t)
    (hne : ∀ c ∈ cs, c ≠ []) (hs : s.isComplete) (ht : (s.after t).isComplete) :
    ∀ c ∈ cs, (RunState.apart.after c).isComplete := by
  induction h generalizing s with
  | last c =>
      intro d hd
      obtain rfl := List.mem_singleton.mp hd
      have hc : s.after d ≠ .broken := RunState.ne_broken_of_isComplete_after (t := []) ht
      rw [← RunState.after_eq_apart_after hs (hne d hd) hc]
      exact ht
  | @cons c g t cs hclosed hgap hrest ih =>
      -- the gap would break a run that the call left half read, so the call left none
      rw [RunState.after_append, RunState.after_append] at ht
      have hgap' := RunState.ne_broken_of_isComplete_after ht
      have hhalf : ∀ k, s.after c ≠ .half k := by
        intro k hk
        rw [hk, RunState.after_gap_of_half hgap] at hgap'
        exact hgap' rfl
      have hbroken : s.after c ≠ .broken := by
        intro hk
        rw [hk, RunState.after_broken] at hgap'
        exact hgap' rfl
      have hc := RunState.isComplete_of_ne hhalf hbroken
      have hafter : ((s.after c).after g).isComplete :=
        RunState.isComplete_of_ne (RunState.after_loose_ne_half hgap.loose hhalf) hgap'
      intro d hd
      rcases List.mem_cons.mp hd with rfl | hd
      · rw [← RunState.after_eq_apart_after hs (hne d List.mem_cons_self) hbroken]
        exact hc
      · exact ih (fun e he => hne e (List.mem_cons_of_mem _ he)) hafter ht d hd

/-- **The runs of a chain printed with spaces are connectives when those inside its items are.** -/
theorem isComplete_spaced {K : Chain Text}
    (h : ∀ c ∈ K.items, (RunState.apart.after c).isComplete) :
    (RunState.apart.after K.spaced).isComplete := by
  induction K with
  | last c => exact h c List.mem_cons_self
  | next c k rest ih =>
      have hspace : ∀ d ∈ [' '], isConnectiveMark d = false := by
        intro d hd
        obtain rfl := List.mem_singleton.mp hd
        decide
      have hc := RunState.after_of_not_mark (h c List.mem_cons_self) (by simp) hspace
      have hafter := RunState.after_of_not_mark (s := .full) (Or.inr rfl) (by simp) hspace
      rw [Chain.spaced_next, k.spacedOperator_eq]
      simp only [RunState.after_append, RunState.after_operator, hc, hafter, if_true]
      exact ih fun d hd => h d (List.mem_cons_of_mem _ hd)

/-- **A chain of pieces without marks has the runs of its connectives.** -/
theorem isComplete_text {s : RunState} {K : Chain Text} (hs : s.isComplete)
    (hmark : ∀ p ∈ K.items, ∀ c ∈ p, isConnectiveMark c = false) (hne : ∀ p ∈ K.items, p ≠ []) :
    (s.after K.text).isComplete := by
  induction K generalizing s with
  | last p => exact RunState.isComplete_after_of_not_mark hs (hmark p List.mem_cons_self)
  | next p k rest ih =>
      have hp := RunState.after_of_not_mark hs (hne p List.mem_cons_self) (hmark p List.mem_cons_self)
      rw [Chain.text_next, RunState.after_append, RunState.after_append, hp, RunState.after_operator,
        if_pos rfl]
      exact ih (Or.inr rfl) (fun q hq => hmark q (List.mem_cons_of_mem _ hq)) fun q hq =>
        hne q (List.mem_cons_of_mem _ hq)

/-- Blanks around a text do not make its runs better. -/
lemma isComplete_trim {t : Text} (h : (RunState.apart.after t).isComplete) :
    (RunState.apart.after t.trim).isComplete := by
  obtain ⟨a, b, ha, hb, heq⟩ := Text.exists_eq_append_trim_append t
  have hblank : ∀ {b : Text}, isBlank b = true → ∀ c ∈ b, isConnectiveMark c = false :=
    fun hb c hc => Expression.not_mark_of_isBlank hb hc
  rw [heq, RunState.after_append, RunState.after_append] at h
  have ha' : RunState.apart.after a = .apart := by
    cases a with
    | nil => rfl
    | cons c a => exact RunState.after_of_not_mark (Or.inl rfl) (List.cons_ne_nil c a) (hblank ha)
  rw [ha'] at h
  cases b with
  | nil => exact h
  | cons c b =>
      have hbroken := RunState.ne_broken_of_isComplete_after h
      refine RunState.isComplete_of_ne (fun k hk => ?_) hbroken
      rw [hk, RunState.after_cons, RunState.step_of_not_mark _ (hblank hb c List.mem_cons_self),
        RunState.after_broken] at h
      exact RunState.not_isComplete_broken h

end BranchPolicy
