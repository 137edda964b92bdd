import BranchPolicy.Character.DecimalDigit
import BranchPolicy.Glob.Pattern
import Mathlib.Tactic.Common

/-!
# The texts that a glob pattern stands for

The meaning of a pattern is given twice.  `StandsFor` is the rule as a user reads it, on the longest runs
of one wildcard, and knows nothing of collapsing or of elements.  `Spells` is the language of a list of
elements, one after the other, and is what a matcher goes by.

* `GlobToken.Matches`, `Spells` — the texts of one element, and of several in a row.
* **`Glob.StandsFor`** — the texts that a pattern stands for.
* `collapseAfter_run`, `collapse_run`, `tokens_run` — a run of one wildcard is a single element.
* **`standsFor_iff_spells`** — a pattern stands for what its elements spell.
* `standsFor_iff_eq` — a pattern without a wildcard stands for itself alone.
-/

namespace BranchPolicy

open Character (isDecimalDigit)

/-! ## Elements -/

/-- The texts that an element of a pattern matches. -/
def GlobToken.Matches : GlobToken → Text → Prop
  | .literal c, t => t = [c]
  | .digits, t => t ≠ [] ∧ ∀ c ∈ t, isDecimalDigit c = true
  | .anything, t => t ≠ []

lemma GlobToken.Matches.ne_nil {token : GlobToken} {t : Text} (h : token.Matches t) : t ≠ [] := by
  cases token with
  | literal c =>
      rw [Matches] at h
      simp [h]
  | digits => exact h.1
  | anything => exact h

/-- A text spelled by elements: matched by them one after the other. -/
inductive Spells : List GlobToken → Text → Prop
  | nil : Spells [] []
  | cons {token : GlobToken} {tokens : List GlobToken} {u t : Text} (first : token.Matches u)
      (rest : Spells tokens t) : Spells (token :: tokens) (u ++ t)

lemma spells_nil_iff {t : Text} : Spells [] t ↔ t = [] := by
  constructor
  · rintro ⟨⟩
    rfl
  · rintro rfl
    exact Spells.nil

lemma spells_cons_iff {token : GlobToken} {tokens : List GlobToken} {t : Text} :
    Spells (token :: tokens) t ↔ ∃ u v, t = u ++ v ∧ token.Matches u ∧ Spells tokens v := by
  constructor
  · intro h
    cases h with
    | cons first rest => exact ⟨_, _, rfl, first, rest⟩
  · rintro ⟨u, v, rfl, first, rest⟩
    exact Spells.cons first rest

namespace Glob

/-! ## Patterns -/

/-- **The texts that a pattern stands for.**  Each longest run of `#` stands for one or more decimal
digits, each longest run of `*` for one or more characters of any kind, and every other character for
itself. -/
inductive StandsFor : Text → Text → Prop
  | nil : StandsFor [] []
  | literal {c : Char} {p t : Text} (hplain : isWildcard c = false) (rest : StandsFor p t) :
      StandsFor (c :: p) (c :: t)
  | digits {n : Nat} {p ds t : Text} (hlongest : p.head? ≠ some '#') (hsome : ds ≠ [])
      (hdigits : ∀ c ∈ ds, isDecimalDigit c = true) (rest : StandsFor p t) :
      StandsFor (List.replicate (n + 1) '#' ++ p) (ds ++ t)
  | anything {n : Nat} {p cs t : Text} (hlongest : p.head? ≠ some '*') (hsome : cs ≠ [])
      (rest : StandsFor p t) : StandsFor (List.replicate (n + 1) '*' ++ p) (cs ++ t)

/-! ## Runs of wildcards -/

/-- What was kept last is immaterial, unless it is a wildcard and the pattern goes on with it. -/
lemma collapseAfter_of_head? {w : Char} {p : Text} (h : isWildcard w = true → p.head? ≠ some w) :
    collapseAfter (some w) p = collapseAfter none p := by
  cases p with
  | nil => rfl
  | cons c p =>
      have hkept : (isWildcard c && some w == some c) = false := by
        rw [Bool.eq_false_iff]
        intro hrun
        obtain ⟨hc, rfl⟩ : isWildcard c = true ∧ w = c := by simpa using hrun
        exact h hc rfl
      have hfirst : (isWildcard c && (none : Option Char) == some c) = false := by simp
      rw [collapseAfter, collapseAfter, hkept, hfirst, if_neg Bool.false_ne_true,
        if_neg Bool.false_ne_true]

/-- A run of one wildcard that has been kept already adds nothing. -/
lemma collapseAfter_run {w : Char} (hw : isWildcard w = true) (n : Nat) (p : Text) :
    collapseAfter (some w) (List.replicate n w ++ p) = collapseAfter (some w) p := by
  induction n with
  | zero => rfl
  | succ n ih => simpa [List.replicate_succ, collapseAfter, hw] using ih

lemma collapse_literal {c : Char} (hc : isWildcard c = false) (p : Text) :
    collapse (c :: p) = c :: collapse p := by
  have hplain : isWildcard c = true → p.head? ≠ some c := fun h => absurd (hc.symm.trans h) (by simp)
  rw [collapse, collapseAfter, hc, Bool.false_and, if_neg Bool.false_ne_true,
    collapseAfter_of_head? hplain, ← collapse]

/-- A longest run of one wildcard is shortened to a single one. -/
lemma collapse_run {w : Char} (hw : isWildcard w = true) (n : Nat) {p : Text}
    (hp : p.head? ≠ some w) : collapse (List.replicate (n + 1) w ++ p) = w :: collapse p := by
  rw [List.replicate_succ, List.cons_append, collapse, collapseAfter]
  simp [collapseAfter_run hw, collapseAfter_of_head? fun _ => hp, collapse]

lemma tokens_literal {c : Char} (hc : isWildcard c = false) (p : Text) :
    tokens (c :: p) = .literal c :: tokens p := by
  obtain ⟨hdigits, hanything⟩ : c ≠ '#' ∧ c ≠ '*' := by simpa [isWildcard] using hc
  simp [tokens, collapse_literal hc, GlobToken.ofChar, hdigits, hanything]

/-- A longest run of one wildcard is a single element. -/
lemma tokens_run {w : Char} (hw : isWildcard w = true) (n : Nat) {p : Text}
    (hp : p.head? ≠ some w) :
    tokens (List.replicate (n + 1) w ++ p) = GlobToken.ofChar w :: tokens p := by
  rw [tokens, collapse_run hw n hp, List.map_cons, tokens]

/-- Every pattern that starts with a wildcard starts with a longest run of it. -/
lemma exists_run (w : Char) (p : Text) :
    ∃ n q, w :: p = List.replicate (n + 1) w ++ q ∧ q.head? ≠ some w ∧ q.length ≤ p.length := by
  induction p with
  | nil => exact ⟨0, [], rfl, by simp, Nat.le_refl _⟩
  | cons c p ih =>
      by_cases hc : c = w
      · subst hc
        obtain ⟨n, q, hq, hhead, hlength⟩ := ih
        refine ⟨n + 1, q, ?_, hhead, Nat.le_trans hlength (by simp)⟩
        rw [hq, ← List.cons_append, ← List.replicate_succ]
      · exact ⟨0, c :: p, rfl, by simpa using hc, Nat.le_refl _⟩

/-! ## The two readings agree -/

lemma spells_of_standsFor {p t : Text} (h : StandsFor p t) : Spells (tokens p) t := by
  induction h with
  | nil => exact Spells.nil
  | literal hplain rest ih =>
      rw [tokens_literal hplain]
      exact Spells.cons (show (GlobToken.literal _).Matches [_] from rfl) ih
  | digits hlongest hsome hdigits rest ih =>
      rw [tokens_run rfl _ hlongest]
      exact Spells.cons (show GlobToken.digits.Matches _ from ⟨hsome, hdigits⟩) ih
  | anything hlongest hsome rest ih =>
      rw [tokens_run rfl _ hlongest]
      exact Spells.cons (show GlobToken.anything.Matches _ from hsome) ih

lemma standsFor_of_spells {p t : Text} (h : Spells (tokens p) t) : StandsFor p t := by
  -- on the length of the pattern, since a run of wildcards is one step
  induction hlength : p.length using Nat.strongRecOn generalizing p t with
  | _ length ih =>
    cases p with
    | nil =>
        obtain rfl := spells_nil_iff.mp h
        exact StandsFor.nil
    | cons c p =>
        rw [List.length_cons] at hlength
        by_cases hc : isWildcard c = true
        · obtain ⟨n, q, hrun, hlongest, hle⟩ := exists_run c p
          rw [hrun, tokens_run hc n hlongest] at h
          obtain ⟨u, v, rfl, hmatches, hrest⟩ := spells_cons_iff.mp h
          have hq : StandsFor q v := ih q.length (by omega) hrest rfl
          rw [hrun]
          obtain rfl | rfl : c = '#' ∨ c = '*' := by simpa [isWildcard] using hc
          · exact StandsFor.digits hlongest hmatches.1 hmatches.2 hq
          · exact StandsFor.anything hlongest hmatches hq
        · rw [Bool.not_eq_true] at hc
          rw [tokens_literal hc] at h
          obtain ⟨u, v, rfl, rfl, hrest⟩ := spells_cons_iff.mp h
          exact StandsFor.literal hc (ih p.length (by omega) hrest rfl)

/-- **A pattern stands for what its elements spell.** -/
theorem standsFor_iff_spells {p t : Text} : StandsFor p t ↔ Spells (tokens p) t :=
  ⟨spells_of_standsFor, standsFor_of_spells⟩

/-- A pattern without a wildcard stands for itself alone. -/
theorem standsFor_iff_eq {p t : Text} (hp : isPattern p = false) : StandsFor p t ↔ t = p := by
  rw [standsFor_iff_spells]
  induction p generalizing t with
  | nil => exact spells_nil_iff
  | cons c p ih =>
      obtain ⟨hc, hrest⟩ : isWildcard c = false ∧ isPattern p = false := by
        simpa [isPattern] using hp
      rw [tokens_literal hc, spells_cons_iff]
      constructor
      · rintro ⟨u, v, rfl, rfl, hv⟩
        rw [(ih hrest).mp hv]
        rfl
      · rintro rfl
        exact ⟨[c], p, rfl, rfl, (ih hrest).mpr rfl⟩

end Glob

end BranchPolicy
