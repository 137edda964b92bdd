import BranchPolicy.Glob.RegularExpression
import BranchPolicy.Proofs.Glob.Language

/-!
# The regular expression of a pattern determines the pattern

The elements of a pattern are written one after the other, without a mark between them.  They can be told
apart all the same, since the first one or two characters of an element settle which one it is.  So two
patterns have the same regular expression exactly when they have the same elements, that is, when they become
equal by shortening each run of one wildcard to a single one.

* `Collapses` — each longest run of one wildcard is shortened; `collapses_iff` says that `collapse` does so.
* `GlobToken.read`, `read_regex_append` — the first element of a regular expression is read off.
* `flatMap_regex_injective`, `ofChar_injective`, `regex_eq_iff` — hence patterns are told apart.
* `collapseAfter_append`, `regex_append` — a pattern in two parts: the second goes on where the first ends.
* **`regex_faithful`** — all of this for any two patterns.
-/

namespace BranchPolicy

/-! ## Elements are read off -/

/-- Reads the first element of a regular expression, with what comes after it. -/
def GlobToken.read : Text → Option (GlobToken × Text)
  | '.' :: r => some (.anything, r.tail)
  | '\\' :: 'd' :: r => some (.digits, r.tail)
  | '\\' :: c :: r => some (.literal c, r)
  | c :: r => some (.literal c, r)
  | [] => none

/-- **An element is read off its regular expression**, whatever comes after it. -/
lemma GlobToken.read_regex_append (token : GlobToken) (r : Text) :
    GlobToken.read (token.regex ++ r) = some (token, r) := by
  cases token with
  | literal c =>
      rw [regex]
      by_cases hc : isEscaped c = true
      · have hd : c ≠ 'd' := by
          rintro rfl
          exact absurd hc (by decide)
        rw [if_pos hc]
        simp [read]
      · obtain ⟨hdot, hbackslash⟩ : c ≠ '.' ∧ c ≠ '\\' := by
          constructor
          all_goals
            rintro rfl
            exact hc (by decide)
        rw [if_neg hc]
        simp [read, hbackslash]
  | digits => rfl
  | anything => rfl

lemma GlobToken.regex_ne_nil (token : GlobToken) : token.regex ≠ [] := by
  intro hnil
  have hread := token.read_regex_append []
  rw [hnil] at hread
  exact absurd hread (by simp [read])

/-- **Elements in a row are told apart** by their regular expressions. -/
theorem flatMap_regex_injective : Function.Injective fun tokens : List GlobToken =>
    tokens.flatMap GlobToken.regex := by
  intro tokens
  induction tokens with
  | nil =>
      intro tokens' h
      cases tokens' with
      | nil => rfl
      | cons token' tokens' =>
          have hnil : [] = token'.regex ++ tokens'.flatMap GlobToken.regex := h
          exact absurd (List.append_eq_nil_iff.mp hnil.symm).1 token'.regex_ne_nil
  | cons token tokens ih =>
      intro tokens' h
      cases tokens' with
      | nil =>
          have hnil : token.regex ++ tokens.flatMap GlobToken.regex = [] := h
          exact absurd (List.append_eq_nil_iff.mp hnil).1 token.regex_ne_nil
      | cons token' tokens' =>
          have hread : GlobToken.read (token.regex ++ tokens.flatMap GlobToken.regex)
              = GlobToken.read (token'.regex ++ tokens'.flatMap GlobToken.regex) :=
            congrArg GlobToken.read h
          rw [GlobToken.read_regex_append, GlobToken.read_regex_append] at hread
          obtain ⟨rfl, hrest⟩ := Prod.mk.inj (Option.some.inj hread)
          rw [ih hrest]

/-- A character can be told from the element that it stands for. -/
lemma GlobToken.ofChar_injective : Function.Injective GlobToken.ofChar := by
  intro c d h
  simp only [ofChar, beq_iff_eq] at h
  split_ifs at h <;> simp_all

namespace Glob

/-! ## Runs of wildcards -/

/-- **A pattern with its runs shortened.**  Each longest run of one wildcard becomes a single one, and every
other character stays. -/
inductive Collapses : Text → Text → Prop
  | nil : Collapses [] []
  | literal {c : Char} {p r : Text} (hplain : isWildcard c = false) (rest : Collapses p r) :
      Collapses (c :: p) (c :: r)
  | run {w : Char} {n : Nat} {p r : Text} (hwildcard : isWildcard w = true)
      (hlongest : p.head? ≠ some w) (rest : Collapses p r) :
      Collapses (List.replicate (n + 1) w ++ p) (w :: r)

/-- **Collapsing shortens the runs** of a pattern. -/
lemma collapses_collapse (p : Text) : Collapses p (collapse p) := by
  -- on the length of the pattern, since a run of wildcards is one step
  induction hlength : p.length using Nat.strongRecOn generalizing p with
  | _ length ih =>
    cases p with
    | nil => exact Collapses.nil
    | cons c p =>
        rw [List.length_cons] at hlength
        by_cases hc : isWildcard c = true
        · obtain ⟨n, q, hrun, hlongest, hle⟩ := exists_run c p
          rw [hrun, collapse_run hc n hlongest]
          exact Collapses.run hc hlongest (ih q.length (by omega) q rfl)
        · rw [Bool.not_eq_true] at hc
          rw [collapse_literal hc]
          exact Collapses.literal hc (ih p.length (by omega) p rfl)

theorem collapses_iff {p r : Text} : Collapses p r ↔ collapse p = r := by
  constructor
  · intro h
    induction h with
    | nil => rfl
    | literal hplain rest ih => rw [collapse_literal hplain, ih]
    | run hwildcard hlongest rest ih => rw [collapse_run hwildcard _ hlongest, ih]
  · rintro rfl
    exact collapses_collapse p

/-! ## Two patterns -/

/-- **Patterns have the same regular expression** exactly when they are collapsed to the same text. -/
theorem regex_eq_iff {p q : Text} : regex p = regex q ↔ collapse p = collapse q := by
  have htokens : regex p = regex q ↔ tokens p = tokens q := flatMap_regex_injective.eq_iff
  rw [htokens]
  exact List.map_inj_right fun c d h => GlobToken.ofChar_injective h

/-- A pattern in two parts is collapsed part by part, the second after the last character of the first. -/
lemma collapseAfter_append (previous : Option Char) (p q : Text) :
    collapseAfter previous (p ++ q)
      = collapseAfter previous p ++ collapseAfter (p.getLast?.or previous) q := by
  induction p generalizing previous with
  | nil => rfl
  | cons c p ih =>
      have hlast : (c :: p).getLast?.or previous = p.getLast?.or (some c) := by
        rw [List.getLast?_cons]
        cases p.getLast? <;> rfl
      rw [List.cons_append, collapseAfter, collapseAfter, hlast]
      split
      · next hrun =>
          obtain ⟨-, rfl⟩ : isWildcard c = true ∧ previous = some c := by simpa using hrun
          exact ih (some c)
      · rw [ih (some c), List.cons_append]

/-- What was kept last takes away the run with which a pattern goes on with it. -/
lemma collapseAfter_eq (previous : Option Char) (q : Text) :
    collapseAfter previous q
      = collapse (q.dropWhile fun c => isWildcard c && previous == some c) := by
  induction q with
  | nil => rfl
  | cons c q ih =>
      rw [collapseAfter, List.dropWhile_cons]
      split
      · exact ih
      · rw [collapse, collapseAfter, if_neg (by simp)]

/-- **The regular expression of a pattern in two parts.**  A run in which the first part ends and with which
the second goes on is written once. -/
theorem regex_append (p q : Text) :
    regex (p ++ q)
      = regex p ++ regex (q.dropWhile fun c => isWildcard c && p.getLast? == some c) := by
  have hcollapse : collapse (p ++ q)
      = collapse p ++ collapse (q.dropWhile fun c => isWildcard c && p.getLast? == some c) := by
    rw [← collapseAfter_eq, collapse, collapseAfter_append, Option.or_none, ← collapse]
  rw [regex, tokens, hcollapse, List.map_append, List.flatMap_append]
  rfl

/-- Two parts of a pattern share a wildcard: the first ends in it, and the second goes on with it. -/
def SharesWildcard (p q : Text) : Prop :=
  ∃ w, isWildcard w = true ∧ p.getLast? = some w ∧ q.head? = some w

lemma regex_append_of_not_shares {p q : Text} (h : ¬ SharesWildcard p q) :
    regex (p ++ q) = regex p ++ regex q := by
  rw [regex_append]
  cases q with
  | nil => rfl
  | cons c q =>
      have hkept : ¬ (isWildcard c && p.getLast? == some c) = true := by
        intro hrun
        obtain ⟨hc, hlast⟩ : isWildcard c = true ∧ p.getLast? = some c := by simpa using hrun
        exact h ⟨c, hc, hlast, rfl⟩
      rw [List.dropWhile_cons, if_neg hkept]

/-- The characters that go on with a wildcard are those that equal it. -/
lemma goesOn_eq {w : Char} (hw : isWildcard w = true) :
    (fun c => isWildcard c && some w == some c) = (· == w) := by
  funext c
  by_cases hc : c = w
  · simp [hc, hw]
  · simp [beq_false_of_ne hc, beq_false_of_ne (Ne.symm hc)]

lemma regex_append_of_ends {p q : Text} {w : Char} (hw : isWildcard w = true)
    (hlast : p.getLast? = some w) :
    regex (p ++ q) = regex p ++ regex (q.dropWhile (· == w)) := by
  rw [regex_append, hlast, goesOn_eq hw]

/-- A pattern that starts with a wildcard is collapsed to this wildcard and what is left without the run. -/
lemma collapse_cons_run {w : Char} (hw : isWildcard w = true) (q : Text) :
    collapse (w :: q) = w :: collapse ((w :: q).dropWhile (· == w)) := by
  rw [← goesOn_eq hw, ← collapseAfter_eq, collapse, collapseAfter, collapseAfter]
  simp [hw]

/-- A run that is written once more makes a difference. -/
lemma not_shares_of_regex_append {p q : Text} (h : regex (p ++ q) = regex p ++ regex q) :
    ¬ SharesWildcard p q := by
  rintro ⟨w, hw, hlast, hhead⟩
  obtain ⟨q', rfl⟩ := List.head?_eq_some_iff.mp hhead
  rw [regex_append_of_ends hw hlast, List.append_cancel_left_eq, regex_eq_iff,
    collapse_cons_run hw q'] at h
  exact absurd h.symm (List.cons_ne_self _ _)

/-- **The translation of patterns is faithful.**  Two patterns have the same regular expression exactly when
they become equal by shortening their runs.  That of a pattern in two parts is those of its parts in a row
exactly when the parts share no wildcard; if they do, the second part is taken without its leading run. -/
theorem regex_faithful (p q : Text) :
    (regex p = regex q ↔ ∃ r, Collapses p r ∧ Collapses q r) ∧
      (regex (p ++ q) = regex p ++ regex q ↔ ¬ SharesWildcard p q) ∧
      ∀ w, isWildcard w = true → p.getLast? = some w → q.head? = some w →
        regex (p ++ q) = regex p ++ regex (q.dropWhile (· == w)) := by
  refine ⟨?same, ⟨not_shares_of_regex_append, regex_append_of_not_shares⟩, ?run⟩
  case same =>
    simp only [collapses_iff, regex_eq_iff]
    exact ⟨fun h => ⟨collapse q, h, rfl⟩, fun ⟨r, hp, hq⟩ => hp.trans hq.symm⟩
  case run =>
    intro w hw hlast _
    exact regex_append_of_ends hw hlast

/-- A text that looks like the regular expression of a wildcard has another one, and a run across two parts is
written once. -/
theorem regex_faithful_lookalike :
    regex "#".toList ≠ regex "\\d+".toList ∧
      regex ("v#".toList ++ "##.*".toList) = regex "v#".toList ++ regex ".*".toList := by
  have hwildcard : isWildcard '#' = true := by decide
  have hdifferent := (regex_faithful "#".toList "\\d+".toList).1
  have hrun := (regex_faithful "v#".toList "##.*".toList).2.2 '#' hwildcard rfl rfl
  refine ⟨?_, hrun⟩
  rw [Ne, hdifferent]
  rintro ⟨r, hdigits, hlookalike⟩
  have hsame := (collapses_iff.mp hdigits).trans (collapses_iff.mp hlookalike).symm
  exact absurd hsame (by decide)

end Glob

end BranchPolicy
