import BranchPolicy.Proofs.Shape.ConnectiveRuns
import BranchPolicy.Proofs.Shape.ListSeparation
import BranchPolicy.Proofs.Shape.ParenthesesAndQuotes

/-!
# Texts that pass the check of the connectives

The two scans of the runs and of the lists are put together here with the rest of the check.

* `connectivesFault_eq_none_iff` — what a trimmed text with connective marks has to be like.
* `not_mark_at_ends` — no connective mark stands at an end of a text that passes.
* **`connectivesFault_spaced`** — the calls of a text that passes also pass when they are printed with
  one space around each connective.
-/

namespace BranchPolicy

open Expression (Loose IsGap Spread)
open Text (isBlank isBlankChar)

/-! ## The ends -/

lemma isAtEdge_eq_false_iff {k : Connective} {t : Text} :
    isAtEdge k t = false ↔ t.head? ≠ some k.mark ∧ t.getLast? ≠ some k.mark := by
  simp [isAtEdge]

/-- No connective stands at an edge when neither end is a mark. -/
lemma forall_isAtEdge_iff {t : Text} :
    (∀ k, isAtEdge k t = false) ↔
      (∀ c ∈ t.head?, isConnectiveMark c = false) ∧
        ∀ c ∈ t.getLast?, isConnectiveMark c = false := by
  simp only [isAtEdge_eq_false_iff]
  constructor
  · intro h
    refine ⟨fun c hc => ?_, fun c hc => ?_⟩
    all_goals
      by_contra hmark
      obtain ⟨k, rfl⟩ := isConnectiveMark_iff.mp (Bool.not_eq_false _ ▸ hmark)
    · exact (h k).1 hc
    · exact (h k).2 hc
  · rintro ⟨hhead, hlast⟩ k
    exact ⟨fun hk => ne_mark_of_not_mark (hhead _ hk) k rfl,
      fun hk => ne_mark_of_not_mark (hlast _ hk) k rfl⟩

/-! ## The check in the terms of the scans -/

/-- **A trimmed text with connective marks passes** when no mark stands at an end of it, every run is a
connective and one stands between each two lists.  That the marks come in pairs follows. -/
theorem connectivesFault_eq_none_iff {t : Text} (htrim : t.trim = t)
    (hmark : t.any isConnectiveMark = true) :
    connectivesFault t = none ↔
      (∀ k, isAtEdge k t = false) ∧ (RunState.apart.after t).isComplete ∧
        listsSeparated true t = true := by
  rw [connectivesFault, htrim, trimmedConnectivesFault, hmark]
  simp only [Bool.not_true, Bool.false_eq_true, if_false, ite_some_eq_none_iff]
  cases hfault : (connectiveRuns t).findSome? runFault with
  | some fault =>
      have hruns : ¬ (RunState.apart.after t).isComplete := by
        rw [← runs_iff, hfault]
        exact Option.some_ne_none fault
      simp [hruns]
  | none =>
      have hruns := runs_iff.mp hfault
      constructor
      · rintro ⟨hand, hor, -, -, hlists⟩
        refine ⟨fun k => ?_, hruns, by simpa using hlists⟩
        cases k
        · exact Bool.eq_false_iff.mpr hand
        · exact Bool.eq_false_iff.mpr hor
      · rintro ⟨hedge, -, hlists⟩
        refine ⟨Bool.eq_false_iff.mp (hedge .and), Bool.eq_false_iff.mp (hedge .or), ?_, ?_, ?_⟩
        · simpa using even_count hruns .or
        · simpa using even_count hruns .and
        · simpa using hlists

/-- A trimmed text without connective marks passes when it does not have two lists. -/
lemma connectivesFault_eq_none_iff_of_not_mark {t : Text} (htrim : t.trim = t)
    (hmark : t.any isConnectiveMark = false) :
    connectivesFault t = none ↔ hasManyLists t = false := by
  rw [connectivesFault, htrim, trimmedConnectivesFault, hmark]
  cases hasManyLists t <;> simp

/-- No connective mark stands at an end of a trimmed text that passes. -/
theorem not_mark_at_ends {t : Text} (htrim : t.trim = t) (h : connectivesFault t = none) :
    (∀ c ∈ t.head?, isConnectiveMark c = false) ∧
      ∀ c ∈ t.getLast?, isConnectiveMark c = false := by
  cases hany : t.any isConnectiveMark with
  | true => exact forall_isAtEdge_iff.mp ((connectivesFault_eq_none_iff htrim hany).mp h).1
  | false =>
      have hnone : ∀ c ∈ t, isConnectiveMark c = false := by
        intro c hc
        exact Bool.eq_false_iff.mpr (List.any_eq_false.mp hany c hc)
      exact ⟨fun c hc => hnone c (List.mem_of_mem_head? hc),
        fun c hc => hnone c (List.mem_of_mem_getLast? hc)⟩

/-! ## Spread calls -/

lemma any_mark_of_gap {x g y : Text} (hg : IsGap g) :
    (x ++ (g ++ y)).any isConnectiveMark = true := by
  obtain ⟨hb, k, hloose⟩ := hg
  refine List.any_eq_true.mpr ⟨k.mark, ?_, k.isConnectiveMark_mark⟩
  simp [k.operator_eq]

/-- One call can only be spread in one way. -/
lemma eq_of_spread_singleton {c t : Text} (h : Spread [c] t) : t = c := by
  cases h with
  | last => rfl
  | cons _ _ hrest => cases hrest

/-- **Printing the calls of a text that passes with one space around each connective gives a text that
passes.** -/
theorem connectivesFault_spaced {K : Chain Text} {t : Text} (hne : ∀ c ∈ K.items, c ≠ [])
    (h : Spread K.items t) (h' : Spread K.items K.spaced) (htrim : t.trim = t)
    (htrim' : K.spaced.trim = K.spaced) (hpass : connectivesFault t = none) :
    connectivesFault K.spaced = none := by
  cases K with
  | last c =>
      rw [eq_of_spread_singleton h] at hpass
      exact hpass
  | next c k rest =>
      have hspaced : (Chain.next c k rest).spaced.any isConnectiveMark = true :=
        any_mark_of_gap (Expression.isGap_spacedOperator k)
      have hany : t.any isConnectiveMark = true := by
        generalize hcs : (Chain.next c k rest).items = cs at h
        cases h with
        | last => exact absurd (List.cons.inj hcs).2 rest.items_ne_nil
        | cons hclosed hgap hrest => exact any_mark_of_gap hgap
      obtain ⟨hedge, hruns, hlists⟩ := (connectivesFault_eq_none_iff htrim hany).mp hpass
      have hcalls := isComplete_of_mem h hne (Or.inl rfl) hruns
      refine (connectivesFault_eq_none_iff htrim' hspaced).mpr ⟨fun j => ?_, ?_, ?_⟩
      · rw [isAtEdge_eq_false_iff, h'.head?_eq hne, h'.getLast?_eq hne, ← h.head?_eq hne,
          ← h.getLast?_eq hne, ← isAtEdge_eq_false_iff]
        exact hedge j
      · exact isComplete_spaced hcalls
      · rw [listsSeparated_spread h' h]
        exact hlists

end BranchPolicy
