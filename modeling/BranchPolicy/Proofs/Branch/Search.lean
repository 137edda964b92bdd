import BranchPolicy.Function.Standard
import BranchPolicy.Proofs.Glob.Matching
import BranchPolicy.Proofs.Glob.RegularExpression
import BranchPolicy.Proofs.Text.Search

/-!
# One meaning for texts and patterns

The functions that compare the branch name with a value go two ways: a value with a wildcard is matched as
a pattern, any other is searched as a text.  Both ways come to the same, namely that the value stands for
the branch name or for a part of it.

* `Placement.IsPart` — the parts of a name that a placement allows.
* `isMatch_or_isPart_iff` — the two ways agree, for every placement.
* `Branch.equals_iff`, `Branch.includes_iff`, `Branch.startsWith_iff`, `Branch.endsWith_iff` — the
  predicates on a name that is not empty.
* `Standard.Holds`, `Standard.Fails` — what a standard function answers for a name and one string.
* **`holds_iff_standsFor`** — the seven functions in terms of what the value stands for.
-/

namespace BranchPolicy

open Glob (StandsFor)

/-! ## Parts of a name -/

/-- The parts of a name in which a pattern may be found. -/
def Placement.IsPart : Placement → (part name : Text) → Prop
  | .anywhere, part, name => part <:+: name
  | .full, part, name => part = name
  | .start, part, name => part <+: name
  | .finish, part, name => part <:+ name

/-- A part is what lies between two cuts, one of which may be fixed to its end of the name. -/
lemma Placement.isPart_iff {placement : Placement} {part name : Text} :
    placement.IsPart part name ↔
      ∃ u w, name = u ++ (part ++ w) ∧ (placement.fixesStart = true → u = []) ∧
        (placement.fixesEnd = true → w = []) := by
  cases placement with
  | anywhere =>
      simp only [IsPart, fixesStart, fixesEnd, List.IsInfix, List.append_assoc]
      simp [eq_comm]
  | full => simp [IsPart, fixesStart, fixesEnd, eq_comm]
  | start =>
      simp only [IsPart, fixesStart, fixesEnd, List.IsPrefix]
      simp [eq_comm]
  | finish =>
      simp only [IsPart, fixesStart, fixesEnd, List.IsSuffix]
      simp [eq_comm]

/-- **The two ways agree.**  Matching a pattern and searching a text both find the parts of the name that
the value stands for. -/
theorem isMatch_or_isPart_iff (placement : Placement) {name value : Text} {found : Bool}
    (hfound : found = true ↔ placement.IsPart value name) :
    (if Glob.isPattern value then Glob.isMatch value placement name else found) = true ↔
      ∃ part, placement.IsPart part name ∧ StandsFor value part := by
  by_cases hpattern : Glob.isPattern value = true
  · rw [if_pos hpattern, Glob.isMatch_iff]
    simp only [Placement.isPart_iff]
    constructor
    · rintro ⟨u, m, w, hname, hu, hw, hm⟩
      exact ⟨m, ⟨u, w, hname, hu, hw⟩, hm⟩
    · rintro ⟨m, ⟨u, w, hname, hu, hw⟩, hm⟩
      exact ⟨u, m, w, hname, hu, hw, hm⟩
  · rw [if_neg hpattern, hfound]
    simp [Glob.standsFor_iff_eq (Bool.eq_false_iff.mpr hpattern)]

/-! ## The predicates -/

namespace Branch

variable {branch value : Text}

lemma equals_iff (hbranch : branch ≠ []) : equals branch value = true ↔ StandsFor value branch := by
  have hways := isMatch_or_isPart_iff .full (beq_iff_eq (a := value) (b := branch))
  simp only [Placement.IsPart, exists_eq_left] at hways
  simpa [equals, hbranch] using hways

lemma includes_iff (hbranch : branch ≠ []) :
    includes branch value = true ↔ ∃ part, part <:+: branch ∧ StandsFor value part := by
  have hfound : value.occursIn branch = true ↔ Placement.anywhere.IsPart value branch :=
    Text.occursIn_iff
  rw [includes, List.isEmpty_eq_false_iff.mpr hbranch]
  exact isMatch_or_isPart_iff .anywhere hfound

lemma startsWith_iff (hbranch : branch ≠ []) :
    startsWith branch value = true ↔ ∃ part, part <+: branch ∧ StandsFor value part := by
  have hfound : value.isPrefixOf branch = true ↔ Placement.start.IsPart value branch :=
    List.isPrefixOf_iff_prefix
  rw [startsWith, List.isEmpty_eq_false_iff.mpr hbranch]
  exact isMatch_or_isPart_iff .start hfound

lemma endsWith_iff (hbranch : branch ≠ []) :
    endsWith branch value = true ↔ ∃ part, part <:+ branch ∧ StandsFor value part := by
  have hfound : value.isSuffixOf branch = true ↔ Placement.finish.IsPart value branch :=
    List.isSuffixOf_iff_suffix
  rw [endsWith, List.isEmpty_eq_false_iff.mpr hbranch]
  exact isMatch_or_isPart_iff .finish hfound

lemma excludes_iff (hbranch : branch ≠ []) :
    excludes branch value = true ↔ ¬ includes branch value = true := by
  simp [excludes, hbranch]

lemma startsWithout_iff (hbranch : branch ≠ []) :
    startsWithout branch value = true ↔ ¬ startsWith branch value = true := by
  simp [startsWithout, hbranch]

lemma endsWithout_iff (hbranch : branch ≠ []) :
    endsWithout branch value = true ↔ ¬ endsWith branch value = true := by
  simp [endsWithout, hbranch]

end Branch

/-! ## The functions -/

namespace Standard

/-- What the standard functions of a name answer for a branch name and one string. -/
def answers (function : String) (branch value : Text) : List (Except String Bool) :=
  (Registry.standard.overloads function.toList).map fun o => o.predicate branch [.string value]

/-- The standard function of a name answers positively for a branch name and one string. -/
def Holds (function : String) (branch value : Text) : Prop :=
  answers function branch value = [.ok true]

/-- The standard function of a name answers negatively for a branch name and one string. -/
def Fails (function : String) (branch value : Text) : Prop :=
  answers function branch value = [.ok false]

/-- The predicates that the functions of one string stand for. -/
def searchPredicates : List (String × (Text → Text → Bool)) :=
  [("equalTo", Branch.equals), ("contains", Branch.includes), ("notContains", Branch.excludes),
   ("startsWith", Branch.startsWith), ("notStartsWith", Branch.startsWithout),
   ("endsWith", Branch.endsWith), ("notEndsWith", Branch.endsWithout)]

lemma answers_eq {function : String} {p : Text → Text → Bool}
    (h : (function, p) ∈ searchPredicates) (branch value : Text) :
    answers function branch value = [.ok (p branch value)] := by
  simp only [searchPredicates, List.mem_cons, List.not_mem_nil, or_false, Prod.mk.injEq] at h
  rcases h with ⟨rfl, rfl⟩ | ⟨rfl, rfl⟩ | ⟨rfl, rfl⟩ | ⟨rfl, rfl⟩ | ⟨rfl, rfl⟩ | ⟨rfl, rfl⟩ |
    ⟨rfl, rfl⟩ <;> rfl

section Search

variable {function : String} {p : Text → Text → Bool} {branch value : Text}

lemma holds_iff (h : (function, p) ∈ searchPredicates) :
    Holds function branch value ↔ p branch value = true := by
  rw [Holds, answers_eq h]
  simp

lemma holds_or_fails (h : (function, p) ∈ searchPredicates) :
    Holds function branch value ∨ Fails function branch value := by
  rw [Holds, Fails, answers_eq h]
  cases p branch value <;> simp

end Search

/-- **One meaning for texts and patterns.**  On a branch name that is not empty, `equalTo` holds when the
value stands for the name, and `startsWith`, `endsWith` and `contains` when it stands for a text at its
start, at its end or anywhere in it, whether or not the value has a wildcard.  The negated functions hold
exactly when the others do not, and each function gives an answer.  What a value stands for is also what
its regular expression matches. -/
theorem holds_iff_standsFor {branch : Text} (hbranch : branch ≠ []) (value : Text) :
    (Holds "equalTo" branch value ↔ StandsFor value branch) ∧
    (Holds "startsWith" branch value ↔ ∃ part, part <+: branch ∧ StandsFor value part) ∧
    (Holds "endsWith" branch value ↔ ∃ part, part <:+ branch ∧ StandsFor value part) ∧
    (Holds "contains" branch value ↔ ∃ part, part <:+: branch ∧ StandsFor value part) ∧
    (Holds "notStartsWith" branch value ↔ ¬ Holds "startsWith" branch value) ∧
    (Holds "notEndsWith" branch value ↔ ¬ Holds "endsWith" branch value) ∧
    (Holds "notContains" branch value ↔ ¬ Holds "contains" branch value) ∧
    (∀ function ∈ searchPredicates.map (·.1),
      Holds function branch value ∨ Fails function branch value) ∧
    (∀ t, RegexMatches (Glob.regex value) t ↔ StandsFor value t) := by
  have hequals : Holds "equalTo" branch value ↔ Branch.equals branch value = true :=
    holds_iff (.head _)
  have hincludes : Holds "contains" branch value ↔ Branch.includes branch value = true :=
    holds_iff (.tail _ (.head _))
  have hexcludes : Holds "notContains" branch value ↔ Branch.excludes branch value = true :=
    holds_iff (.tail _ (.tail _ (.head _)))
  have hstarts : Holds "startsWith" branch value ↔ Branch.startsWith branch value = true :=
    holds_iff (.tail _ (.tail _ (.tail _ (.head _))))
  have hstartsWithout :
      Holds "notStartsWith" branch value ↔ Branch.startsWithout branch value = true :=
    holds_iff (.tail _ (.tail _ (.tail _ (.tail _ (.head _)))))
  have hends : Holds "endsWith" branch value ↔ Branch.endsWith branch value = true :=
    holds_iff (.tail _ (.tail _ (.tail _ (.tail _ (.tail _ (.head _))))))
  have hendsWithout :
      Holds "notEndsWith" branch value ↔ Branch.endsWithout branch value = true :=
    holds_iff (.tail _ (.tail _ (.tail _ (.tail _ (.tail _ (.tail _ (.head _)))))))
  refine ⟨hequals.trans (Branch.equals_iff hbranch), hstarts.trans (Branch.startsWith_iff hbranch),
    hends.trans (Branch.endsWith_iff hbranch), hincludes.trans (Branch.includes_iff hbranch),
    ?notStartsWith, ?notEndsWith, ?notContains, ?answered, fun t => regexMatches_regex_iff⟩
  case notStartsWith =>
    exact hstartsWithout.trans ((Branch.startsWithout_iff hbranch).trans (not_congr hstarts.symm))
  case notEndsWith =>
    exact hendsWithout.trans ((Branch.endsWithout_iff hbranch).trans (not_congr hends.symm))
  case notContains =>
    exact hexcludes.trans ((Branch.excludes_iff hbranch).trans (not_congr hincludes.symm))
  case answered =>
    intro function hfunction
    obtain ⟨⟨name, p⟩, hmem, rfl⟩ := List.mem_map.mp hfunction
    exact holds_or_fails hmem

/-- The version in a branch name, as a pattern with two numbers: it is found in the name, though not at its
start. -/
theorem holds_iff_standsFor_version :
    Holds "contains" "release/v1.22-rc".toList "v#.#".toList ∧
      Holds "notStartsWith" "release/v1.22-rc".toList "v#.#".toList := by
  obtain ⟨-, hstarts, -, hcontains, hnotStarts, -⟩ :=
    @holds_iff_standsFor "release/v1.22-rc".toList (by decide) "v#.#".toList
  constructor
  · have hversion : StandsFor
        ('v' :: (List.replicate 1 '#' ++ ('.' :: (List.replicate 1 '#' ++ []))))
        ('v' :: (['1'] ++ ('.' :: (['2', '2'] ++ [])))) :=
      .literal rfl (.digits (by decide) (by decide) (List.all_eq_true.mp (by decide))
        (.literal rfl (.digits (by decide) (by decide) (List.all_eq_true.mp (by decide)) .nil)))
    exact hcontains.mpr ⟨"v1.22".toList, ⟨"release/".toList, "-rc".toList, rfl⟩, hversion⟩
  · rw [hnotStarts, hstarts]
    rintro ⟨part, hprefix, hpart⟩
    have hpattern : "v#.#".toList = ['v', '#', '.', '#'] := rfl
    rw [hpattern] at hpart
    -- a version starts with a letter that the name does not start with
    cases hpart with
    | literal hplain rest => exact absurd hprefix (by simp)

end Standard

end BranchPolicy
