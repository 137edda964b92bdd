import BranchPolicy.Proofs.Text.Lower
import BranchPolicy.Workflow.Inputs

/-!
# What trimming removes from a branch name

The text to trim is compared with the start of the branch name in lower case, and as many characters are cut
as the text has.  This removes the part of the name that is spelled like the text, apart from case, unless
one of two letters is in the way: a capital sigma, whose lower-case form depends on the rest of its word, or
a capital I with a dot, whose lower-case form has two characters.

* `SpelledLike` — a first part of a name is spelled like a text, apart from case.
* `TrimsSpelling` — what is left of a name when such a part is removed.
* `TrimFault` — the ways in which the two letters spoil this.
* `drop_eq_rest_iff` — when a cut by the length of the text removes such a part.
* `not_fault_of_plain_letters` — without them, there is nothing in the way.
* **`validatedBranch_trims_iff`** — trimming leaves what it should leave, but for these faults.
* **`validatedBranch_keeps_part`** — a name that starts with the very text to trim, and is left as it is.
-/

namespace BranchPolicy

open Character (dottedCapitalI capitalSigma)
open Text (SplitsSigma lower length_lower)

/-! ## What trimming is for -/

/-- A first part of a branch name is spelled like a text, apart from case. -/
def SpelledLike (branch text part : Text) : Prop :=
  part <+: branch ∧ part.lower = text.lower

/-- **What is left of a branch name** when the first part that is spelled like a text is removed: the rest
of the name, or all of it if the text is empty or no first part is spelled like it. -/
structure TrimsSpelling (branch text rest : Text) : Prop where
  removed : (text ≠ [] ∧ ∃ part, SpelledLike branch text part) →
    ∃ part, branch = part ++ rest ∧ part.lower = text.lower
  kept : ¬ (text ≠ [] ∧ ∃ part, SpelledLike branch text part) → rest = branch

/-- **How trimming goes wrong.**  A first part is spelled like the text, but the rest of the name changes its
sigma (`missed`).  None is, but the name starts like the text in lower case, up to such a sigma (`changed`) or
between the two characters of a dotted capital (`halved`).  Or one is, with more or fewer dotted capitals than
the text, so that the cut is in another place (`displaced`). -/
inductive TrimFault (branch text : Text) : Prop
  | missed {part rest : Text} (split : branch = part ++ rest) (same : part.lower = text.lower)
      (sigma : SplitsSigma part rest)
  | changed {part rest : Text} (split : branch = part ++ rest) (found : text.lower <+: branch.lower)
      (length : part.lower.length = text.lower.length) (sigma : SplitsSigma part rest)
  | halved {part rest : Text} (split : branch = part ++ dottedCapitalI :: rest)
      (found : text.lower <+: branch.lower) (length : part.lower.length + 1 = text.lower.length)
  | displaced {part rest : Text} (split : branch = part ++ rest) (same : part.lower = text.lower)
      (dots : part.count dottedCapitalI ≠ text.count dottedCapitalI)
      (short : rest = [] → part.count dottedCapitalI < text.count dottedCapitalI)

/-! ## Parts and their lengths -/

lemma lower_eq_nil_iff {t : Text} : t.lower = [] ↔ t = [] := by
  rw [← List.length_eq_zero_iff, length_lower, ← List.length_eq_zero_iff]
  have hcount : t.count dottedCapitalI ≤ t.length := List.count_le_length
  omega

/-- There is at most one such part. -/
lemma SpelledLike.unique {branch text part part' : Text} (h : SpelledLike branch text part)
    (h' : SpelledLike branch text part') : part = part' :=
  Text.eq_of_length_lower_eq h.1 h'.1 (congrArg List.length (h.2.trans h'.2.symm))

lemma ne_nil_of_length_lower_eq {part text : Text} {c : Char} (hc : c ∈ part)
    (h : part.lower.length = text.lower.length) : text ≠ [] := by
  rintro rfl
  rw [lower_eq_nil_iff.mpr rfl, List.length_nil, List.length_eq_zero_iff, lower_eq_nil_iff] at h
  rw [h] at hc
  exact absurd hc List.not_mem_nil

/-- Cutting as many characters as the text has removes a part that is spelled like it, if the two have
equally many dotted capitals, or if the part is the whole name and not shorter than it should be. -/
lemma drop_eq_rest_iff {text part rest : Text} (h : part.lower = text.lower) :
    (part ++ rest).drop text.length = rest ↔
      ¬ (part.count dottedCapitalI ≠ text.count dottedCapitalI ∧
        (rest = [] → part.count dottedCapitalI < text.count dottedCapitalI)) := by
  have hlength : part.length + part.count dottedCapitalI
      = text.length + text.count dottedCapitalI := by
    rw [← length_lower, ← length_lower, h]
  constructor
  · rintro hdrop ⟨hdots, hshort⟩
    have hcut := congrArg List.length hdrop
    rw [List.length_drop, List.length_append] at hcut
    rcases rest.eq_nil_or_concat with hnil | ⟨_, _, hcons⟩
    · have hless := hshort hnil
      omega
    · have hpos : 0 < rest.length := by simp [hcons]
      omega
  · intro hnot
    by_cases hdots : part.count dottedCapitalI = text.count dottedCapitalI
    · have hsame : text.length = part.length := by omega
      rw [hsame, List.drop_left]
    · have hnil : rest = [] := by
        by_contra hne
        exact hnot ⟨hdots, fun h => absurd h hne⟩
      have hmore : ¬ part.count dottedCapitalI < text.count dottedCapitalI :=
        fun hless => hnot ⟨hdots, fun _ => hless⟩
      rw [hnil, List.append_nil]
      exact List.drop_eq_nil_of_le (by omega)

/-- Keeping the whole name is wrong if a part of it should go. -/
lemma not_trims_of_kept {branch text part : Text} (htext : text ≠ [])
    (hpart : SpelledLike branch text part) : ¬ TrimsSpelling branch text branch := by
  intro h
  obtain ⟨part', hsplit, hsame⟩ := h.removed ⟨htext, part, hpart⟩
  obtain rfl : part' = [] := List.self_eq_append_left.mp hsplit
  exact htext (lower_eq_nil_iff.mp hsame.symm)

/-- Cutting the name is wrong if no part of it should go. -/
lemma not_trims_of_cut {branch text : Text} (htext : text ≠ []) (hfound : text.lower <+: branch.lower)
    (hpart : ∀ part, ¬ SpelledLike branch text part) :
    ¬ TrimsSpelling branch text (branch.drop text.length) := by
  intro h
  have hwhole := congrArg List.length (h.kept fun ⟨_, part, hspelled⟩ => hpart part hspelled)
  have hbranch : branch ≠ [] := by
    rintro rfl
    exact htext (lower_eq_nil_iff.mp (List.prefix_nil.mp hfound))
  rw [List.length_drop] at hwhole
  have hcut : 0 < text.length := List.length_pos_iff.mpr htext
  have hname : 0 < branch.length := List.length_pos_iff.mpr hbranch
  omega

/-- A part that ends between the two characters of a dotted capital does not exist. -/
lemma length_lower_ne_of_halved {branch part rest part' : Text}
    (hsplit : branch = part ++ dottedCapitalI :: rest) (hpart' : part' <+: branch) :
    part'.lower.length ≠ part.lower.length + 1 := by
  have hpart : part <+: branch := ⟨_, hsplit.symm⟩
  have hdotted : part ++ [dottedCapitalI] <+: branch := ⟨rest, by rw [hsplit, List.append_assoc]; rfl⟩
  rcases Nat.lt_or_ge part.length part'.length with hlonger | hshorter
  · have hle := Text.length_lower_le_of_prefix
      (List.prefix_of_prefix_length_le hdotted hpart' (by rwa [List.length_append]))
    rw [Text.length_lower_append, Text.length_lower_singleton, if_pos rfl] at hle
    omega
  · have hle := Text.length_lower_le_of_prefix (List.prefix_of_prefix_length_le hpart' hpart hshorter)
    omega

/-- **Without the two letters, nothing is in the way.** -/
lemma not_fault_of_plain_letters {branch text : Text} (hsigma : capitalSigma ∉ branch)
    (hbranch : dottedCapitalI ∉ branch) (htext : dottedCapitalI ∉ text) : ¬ TrimFault branch text := by
  rintro (⟨rfl, -, hsplits⟩ | ⟨rfl, -, -, hsplits⟩ | ⟨rfl, -, -⟩ | ⟨rfl, -, hdots, -⟩)
  · exact hsigma (List.mem_append_left _ hsplits.mem)
  · exact hsigma (List.mem_append_left _ hsplits.mem)
  · exact hbranch (List.mem_append_right _ List.mem_cons_self)
  · rw [List.count_eq_zero.mpr htext,
      List.count_eq_zero.mpr fun hpart => hbranch (List.mem_append_left _ hpart)] at hdots
    exact hdots rfl

/-! ## What is cut -/

namespace RunInputs

variable {i : RunInputs}

lemma validatedBranch_of_found (htext : i.trimFromStart ≠ [])
    (hfound : i.trimFromStart.lower <+: i.branchName.lower) :
    i.validatedBranch = i.branchName.drop i.trimFromStart.length := by
  rw [validatedBranch, if_pos (by simp [htext, hfound])]

lemma validatedBranch_of_not_found (hfound : ¬ i.trimFromStart.lower <+: i.branchName.lower) :
    i.validatedBranch = i.branchName := by
  rw [validatedBranch, if_neg (by simp [hfound])]

lemma validatedBranch_of_nil (htext : i.trimFromStart = []) : i.validatedBranch = i.branchName := by
  rw [validatedBranch, if_neg (by simp [htext])]

/-- **Each fault spoils the result.** -/
lemma not_trims_of_fault (h : TrimFault i.branchName i.trimFromStart) :
    ¬ TrimsSpelling i.branchName i.trimFromStart i.validatedBranch := by
  cases h with
  | missed split same sigma =>
      have htext := ne_nil_of_length_lower_eq sigma.mem (congrArg List.length same)
      have hfound : ¬ i.trimFromStart.lower <+: i.branchName.lower := by
        rw [← same, split, Text.lower_prefix_iff]
        exact not_not_intro sigma
      rw [validatedBranch_of_not_found hfound]
      exact not_trims_of_kept htext ⟨⟨_, split.symm⟩, same⟩
  | @changed part rest split found length sigma =>
      have htext := ne_nil_of_length_lower_eq sigma.mem length
      rw [validatedBranch_of_found htext found]
      refine not_trims_of_cut htext found fun part' hpart' => ?_
      obtain rfl : part' = part := Text.eq_of_length_lower_eq hpart'.1 ⟨_, split.symm⟩
        ((congrArg List.length hpart'.2).trans length.symm)
      rw [← hpart'.2, split, Text.lower_prefix_iff] at found
      exact found sigma
  | @halved part rest split found length =>
      have htext : i.trimFromStart ≠ [] := by
        intro hnil
        rw [hnil, lower_eq_nil_iff.mpr rfl] at length
        exact absurd length (by simp)
      rw [validatedBranch_of_found htext found]
      refine not_trims_of_cut htext found fun part' hpart' => ?_
      exact length_lower_ne_of_halved split hpart'.1 ((congrArg List.length hpart'.2).trans length.symm)
  | @displaced part rest split same dots short =>
      have hpart : SpelledLike i.branchName i.trimFromStart part := ⟨⟨_, split.symm⟩, same⟩
      have htext : i.trimFromStart ≠ [] := by
        intro hnil
        rw [hnil, lower_eq_nil_iff.mpr rfl, lower_eq_nil_iff] at same
        exact dots (by rw [same, hnil])
      by_cases hfound : i.trimFromStart.lower <+: i.branchName.lower
      · rw [validatedBranch_of_found htext hfound]
        intro h
        obtain ⟨part', hsplit', hsame'⟩ := h.removed ⟨htext, part, hpart⟩
        obtain rfl : part' = part := SpelledLike.unique ⟨⟨_, hsplit'.symm⟩, hsame'⟩ hpart
        have hrest : rest = i.branchName.drop i.trimFromStart.length :=
          List.append_cancel_left (split.symm.trans hsplit')
        rw [split] at hrest
        exact (drop_eq_rest_iff same).mp hrest.symm ⟨dots, short⟩
      · rw [validatedBranch_of_not_found hfound]
        exact not_trims_of_kept htext hpart

/-- **Without a fault, the result is right.** -/
lemma trims_of_not_fault (h : ¬ TrimFault i.branchName i.trimFromStart) :
    TrimsSpelling i.branchName i.trimFromStart i.validatedBranch := by
  by_cases htext : i.trimFromStart = []
  · rw [validatedBranch_of_nil htext]
    exact ⟨fun ⟨hne, _⟩ => absurd htext hne, fun _ => rfl⟩
  by_cases hpart : ∃ part, SpelledLike i.branchName i.trimFromStart part
  · obtain ⟨part, ⟨rest, hsplit⟩, hsame⟩ := hpart
    have hfound : i.trimFromStart.lower <+: i.branchName.lower := by
      rw [← hsame, ← hsplit, Text.lower_prefix_iff]
      exact fun hsigma => h (.missed hsplit.symm hsame hsigma)
    have hrest : i.branchName.drop i.trimFromStart.length = rest := by
      rw [← hsplit, drop_eq_rest_iff hsame]
      exact fun ⟨hdots, hshort⟩ => h (.displaced hsplit.symm hsame hdots hshort)
    rw [validatedBranch_of_found htext hfound, hrest]
    refine ⟨fun _ => ⟨part, hsplit.symm, hsame⟩, fun hnot => ?_⟩
    exact absurd ⟨htext, part, ⟨rest, hsplit⟩, hsame⟩ hnot
  · have hfound : ¬ i.trimFromStart.lower <+: i.branchName.lower := by
      intro hfound
      rcases Text.exists_cut hfound.length_le with
        ⟨part, rest, hsplit, hlength⟩ | ⟨part, rest, hsplit, hlength⟩
      · by_cases hsigma : SplitsSigma part rest
        · exact h (.changed hsplit hfound hlength hsigma)
        · have hlower : part.lower <+: i.branchName.lower := hsplit ▸ Text.lower_prefix_iff.mpr hsigma
          exact hpart ⟨part, ⟨rest, hsplit.symm⟩, Text.eq_of_prefix_of_prefix hlower hfound hlength⟩
      · exact h (.halved hsplit hfound hlength)
    rw [validatedBranch_of_not_found hfound]
    exact ⟨fun ⟨_, hspelled⟩ => absurd hspelled hpart, fun _ => rfl⟩

/-- **What trimming removes.**  For all inputs: the validated name is what is left of the branch name when
the first part that is spelled like the text to trim is removed, unless one of the faults is there.  None is
there if no capital sigma and no dotted capital stands in the name, and no dotted capital in the text. -/
theorem validatedBranch_trims_iff (i : RunInputs) :
    (TrimsSpelling i.branchName i.trimFromStart i.validatedBranch ↔
      ¬ TrimFault i.branchName i.trimFromStart) ∧
    (capitalSigma ∉ i.branchName → dottedCapitalI ∉ i.branchName →
      dottedCapitalI ∉ i.trimFromStart →
      TrimsSpelling i.branchName i.trimFromStart i.validatedBranch) :=
  ⟨⟨fun htrims hfault => not_trims_of_fault hfault htrims, trims_of_not_fault⟩,
    fun hsigma hbranch htext => trims_of_not_fault (not_fault_of_plain_letters hsigma hbranch htext)⟩

/-- The prefix of a reference, to be trimmed in capitals. -/
def referenceInputs : RunInputs where
  branchName := "refs/heads/feature/1".toList
  trimFromStart := "REFS/HEADS/".toList

/-- The prefix of a reference is removed in spite of its case. -/
theorem validatedBranch_trims_iff_reference :
    (capitalSigma ∉ referenceInputs.branchName ∧ dottedCapitalI ∉ referenceInputs.branchName ∧
      dottedCapitalI ∉ referenceInputs.trimFromStart) ∧
    TrimsSpelling referenceInputs.branchName referenceInputs.trimFromStart "feature/1".toList := by
  have hsigma : capitalSigma ∉ referenceInputs.branchName := by decide
  have hbranch : dottedCapitalI ∉ referenceInputs.branchName := by decide
  have htext : dottedCapitalI ∉ referenceInputs.trimFromStart := by decide
  have hvalidated : referenceInputs.validatedBranch = "feature/1".toList := by decide +kernel
  refine ⟨⟨hsigma, hbranch, htext⟩, ?_⟩
  rw [← hvalidated]
  exact (validatedBranch_trims_iff referenceInputs).2 hsigma hbranch htext

/-- A name of three Greek capitals, alpha, sigma and alpha, of which the first two are to be trimmed. -/
def sigmaInputs : RunInputs where
  branchName := "ΑΣΑ".toList
  trimFromStart := "ΑΣ".toList

/-- A name that starts with a dotted capital, and its lower-case form, to be trimmed. -/
def dottedInputs : RunInputs where
  branchName := [dottedCapitalI, 'x']
  trimFromStart := Character.lower dottedCapitalI

/-- **A name that starts with the very text to trim, and is left as it is**, because the sigma at the end of
the text stands in the middle of a word in the name; and one that is cut after two characters, though the
part to be removed has one. -/
theorem validatedBranch_keeps_part :
    (sigmaInputs.trimFromStart <+: sigmaInputs.branchName ∧
      sigmaInputs.validatedBranch = sigmaInputs.branchName ∧
      ¬ TrimsSpelling sigmaInputs.branchName sigmaInputs.trimFromStart sigmaInputs.validatedBranch) ∧
    (dottedInputs.validatedBranch = [] ∧
      ¬ TrimsSpelling dottedInputs.branchName dottedInputs.trimFromStart dottedInputs.validatedBranch) := by
  refine ⟨?sigma, ?dotted⟩
  case sigma =>
    have hstart : sigmaInputs.trimFromStart <+: sigmaInputs.branchName := by decide
    have hkept : sigmaInputs.validatedBranch = sigmaInputs.branchName := by decide +kernel
    refine ⟨hstart, hkept, ?_⟩
    rw [hkept]
    exact not_trims_of_kept (by decide) ⟨hstart, rfl⟩
  case dotted =>
    have hcut : dottedInputs.validatedBranch = [] := by decide +kernel
    have hsplit : dottedInputs.branchName = [dottedCapitalI] ++ ['x'] := rfl
    exact ⟨hcut, not_trims_of_fault (.displaced hsplit (by decide +kernel) (by decide) (by decide))⟩

end RunInputs

end BranchPolicy
