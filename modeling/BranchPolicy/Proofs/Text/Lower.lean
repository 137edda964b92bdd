import BranchPolicy.Character.Case.Lower
import Mathlib.Data.List.Induction
import Mathlib.Tactic.Lemma

/-!
# Lower-casing a text that is cut in two

Lower-casing does not commute with cutting.  A capital sigma becomes the final sigma at the end of a word,
so that it comes out differently when the rest of its word is cut off.  And the capital I with a dot becomes
two characters, so that a cut of the lower-case form may not come from any cut of the text.

* `endsCased` — the mirror image of `startsCased`: what stands before a sigma.
* `lowerBefore` — the lower-case form of the first part of a text, with an eye on what follows;
  `lowerFrom_append` says that it is what comes first in the lower-case form of the text.
* `length_lower` — a text is as long as its lower-case form, but for the dotted capitals.
* `SplitsSigma` — a cut parts a capital sigma from the rest of its word.
* **`lower_prefix_iff`** — the lower-case form of a first part is a prefix unless the cut does that.
* `exists_cut` — where the lower-case form of a text can be cut.
-/

namespace BranchPolicy

namespace Character

/-! ## Single characters -/

/-- The capital I with a dot. -/
def dottedCapitalI : Char := Char.ofNat 0x0130

lemma toNat_eq_iff_dottedCapitalI {c : Char} : c.toNat = 0x0130 ↔ c = dottedCapitalI := by
  constructor
  · intro h
    rw [← Char.ofNat_toNat c, h, dottedCapitalI]
  · rintro rfl
    decide

/-- The lower-case form of a character is one character, and for the dotted capital two. -/
lemma length_lower (c : Char) : (lower c).length = if c = dottedCapitalI then 2 else 1 := by
  simp only [lower, beq_iff_eq, toNat_eq_iff_dottedCapitalI]
  split <;> rfl

end Character

namespace Text

open Character

/-! ## Before and after a character -/

lemma startsCased_cons (c : Char) (t : Text) :
    startsCased (c :: t) = if isCaseIgnorable c then startsCased t else isCased c := by
  rw [startsCased, List.dropWhile_cons]
  split <;> rfl

lemma startsCased_append_of_ignorable {g : Text} (hg : ∀ c ∈ g, isCaseIgnorable c = true) (t : Text) :
    startsCased (g ++ t) = startsCased t := by
  rw [startsCased, List.dropWhile_append_of_pos hg, startsCased]

lemma startsCased_of_ignorable {g : Text} (hg : ∀ c ∈ g, isCaseIgnorable c = true) :
    startsCased g = false := by
  rw [← List.append_nil g, startsCased_append_of_ignorable hg]
  rfl

lemma startsCased_append_of_not_ignorable {g : Text} {c : Char} (hc : c ∈ g)
    (hignorable : isCaseIgnorable c = false) (t : Text) : startsCased (g ++ t) = startsCased g := by
  induction g with
  | nil => exact absurd hc List.not_mem_nil
  | cons d g ih =>
      rw [List.cons_append, startsCased_cons, startsCased_cons]
      by_cases hd : isCaseIgnorable d = true
      · obtain rfl | hmem := List.mem_cons.mp hc
        · exact absurd hd (Bool.eq_false_iff.mp hignorable)
        · rw [if_pos hd, if_pos hd, ih hmem]
      · rw [if_neg hd, if_neg hd]

/-- Whether the last character that case mapping does not look past is cased. -/
def endsCased (t : Text) : Bool :=
  startsCased t.reverse

/-- Whether a cased character precedes what comes after a text, when the text is read with one before it
or not. -/
def casedAfter (afterCased : Bool) (t : Text) : Bool :=
  t.foldl (fun cased c => if isCaseIgnorable c then cased else isCased c) afterCased

@[simp] lemma casedAfter_cons (afterCased : Bool) (c : Char) (t : Text) :
    casedAfter afterCased (c :: t)
      = casedAfter (if isCaseIgnorable c then afterCased else isCased c) t := rfl

lemma casedAfter_false (t : Text) : casedAfter false t = endsCased t := by
  induction t using List.reverseRecOn with
  | nil => rfl
  | append_singleton t c ih =>
      rw [endsCased, List.reverse_append, List.reverse_singleton, List.singleton_append, startsCased_cons,
        ← endsCased, ← ih, casedAfter, List.foldl_append]
      rfl

/-! ## The first part of a text -/

/-- The image of a character, with what comes after it. -/
def imageAt (afterCased : Bool) (c : Char) (rest : Text) : Text :=
  if c == capitalSigma && afterCased && !startsCased rest then [finalSigma] else Character.lower c

/-- The lower-case form of the first part of a text, whose other part comes next. -/
def lowerBefore : (afterCased : Bool) → Text → (next : Text) → Text
  | _, [], _ => []
  | afterCased, c :: cs, next =>
    imageAt afterCased c (cs ++ next) ++
      lowerBefore (if isCaseIgnorable c then afterCased else isCased c) cs next

lemma lowerFrom_cons (afterCased : Bool) (c : Char) (cs : Text) :
    lowerFrom afterCased (c :: cs) = imageAt afterCased c cs ++
      lowerFrom (if isCaseIgnorable c then afterCased else isCased c) cs := rfl

lemma lowerFrom_append (afterCased : Bool) (p s : Text) :
    lowerFrom afterCased (p ++ s)
      = lowerBefore afterCased p s ++ lowerFrom (casedAfter afterCased p) s := by
  induction p generalizing afterCased with
  | nil => rfl
  | cons c p ih =>
      rw [List.cons_append, lowerFrom_cons, ih, lowerBefore, List.append_assoc, casedAfter_cons]

lemma lowerBefore_nil (afterCased : Bool) (p : Text) :
    lowerBefore afterCased p [] = lowerFrom afterCased p := by
  have h := lowerFrom_append afterCased p []
  rw [List.append_nil, lowerFrom, List.append_nil] at h
  exact h.symm

lemma length_imageAt (afterCased : Bool) (c : Char) (rest : Text) :
    (imageAt afterCased c rest).length = if c = dottedCapitalI then 2 else 1 := by
  have hsigma : capitalSigma ≠ dottedCapitalI := by decide
  rw [imageAt]
  split
  · next h =>
      simp only [Bool.and_eq_true, beq_iff_eq] at h
      rw [h.1.1, if_neg hsigma]
      rfl
  · exact Character.length_lower c

lemma length_lowerBefore (afterCased : Bool) (p s : Text) :
    (lowerBefore afterCased p s).length = p.length + p.count dottedCapitalI := by
  induction p generalizing afterCased with
  | nil => rfl
  | cons c p ih =>
      rw [lowerBefore, List.length_append, ih, length_imageAt, List.length_cons, List.count_cons]
      by_cases hc : c = dottedCapitalI
      · rw [if_pos hc, if_pos (beq_iff_eq.mpr hc)]
        omega
      · rw [if_neg hc, if_neg (by simpa using hc)]
        omega

/-- **A text is as long as its lower-case form**, but for the dotted capitals, which count twice. -/
lemma length_lower (t : Text) : t.lower.length = t.length + t.count dottedCapitalI := by
  rw [lower, ← lowerBefore_nil, length_lowerBefore]

lemma length_lower_append (p s : Text) :
    (Text.lower (p ++ s)).length = p.lower.length + s.lower.length := by
  simp only [length_lower, List.length_append, List.count_append]
  omega

lemma length_lower_singleton (c : Char) :
    (Text.lower [c]).length = if c = dottedCapitalI then 2 else 1 :=
  (congrArg List.length (List.append_nil _)).trans (length_imageAt false c [])

/-! ## Words that are cut -/

/-- A cut parts a capital sigma from the rest of its word: cased characters stand before and after the
sigma, the latter behind the cut, and nothing but ignorable ones between it and the cut. -/
def SplitsSigma (p s : Text) : Prop :=
  ∃ u g, p = u ++ capitalSigma :: g ∧ endsCased u = true ∧ (∀ c ∈ g, isCaseIgnorable c = true) ∧
    startsCased s = true

lemma SplitsSigma.mem {p s : Text} (h : SplitsSigma p s) : capitalSigma ∈ p := by
  obtain ⟨u, g, rfl, -⟩ := h
  simp

lemma imageAt_append_eq_iff {afterCased : Bool} {c : Char} {g s : Text} :
    imageAt afterCased c (g ++ s) = imageAt afterCased c g ↔
      ¬ (c = capitalSigma ∧ afterCased = true ∧ (∀ d ∈ g, isCaseIgnorable d = true) ∧
        startsCased s = true) := by
  by_cases hg : ∀ d ∈ g, isCaseIgnorable d = true
  · have hsigma : Character.lower capitalSigma ≠ [finalSigma] := by decide
    rw [imageAt, imageAt, startsCased_append_of_ignorable hg, startsCased_of_ignorable hg,
      eq_true hg, true_and]
    by_cases hc : c = capitalSigma
    · subst hc
      cases afterCased <;> cases startsCased s <;> simp [hsigma]
    · simp [hc]
  · obtain ⟨d, hd, hignorable⟩ : ∃ d ∈ g, isCaseIgnorable d = false := by simpa using hg
    rw [imageAt, imageAt, startsCased_append_of_not_ignorable hd hignorable]
    exact iff_of_true rfl fun h => hg h.2.2.1

/-- The first part of a text is lower-cased as if it stood alone, but for a sigma that is split. -/
lemma lowerBefore_eq_iff {afterCased : Bool} {p s : Text} :
    lowerBefore afterCased p s = lowerFrom afterCased p ↔
      ¬ ∃ u g, p = u ++ capitalSigma :: g ∧ casedAfter afterCased u = true ∧
        (∀ c ∈ g, isCaseIgnorable c = true) ∧ startsCased s = true := by
  induction p generalizing afterCased with
  | nil => simp [lowerBefore, lowerFrom]
  | cons c p ih =>
      have hlength : (imageAt afterCased c (p ++ s)).length = (imageAt afterCased c p).length := by
        rw [length_imageAt, length_imageAt]
      have hparts : lowerBefore afterCased (c :: p) s = lowerFrom afterCased (c :: p) ↔
          imageAt afterCased c (p ++ s) = imageAt afterCased c p ∧
            lowerBefore (if isCaseIgnorable c then afterCased else isCased c) p s
              = lowerFrom (if isCaseIgnorable c then afterCased else isCased c) p :=
        ⟨fun h => List.append_inj h hlength, fun ⟨h, h'⟩ => congrArg₂ (· ++ ·) h h'⟩
      rw [hparts, imageAt_append_eq_iff, ih, ← not_or, not_iff_not]
      constructor
      · rintro (⟨rfl, hcased, hg, hs⟩ | ⟨u, g, rfl, hcased, hg, hs⟩)
        · exact ⟨[], p, rfl, hcased, hg, hs⟩
        · exact ⟨c :: u, g, rfl, hcased, hg, hs⟩
      · rintro ⟨u, g, hsplit, hcased, hg, hs⟩
        cases u with
        | nil =>
            obtain ⟨rfl, rfl⟩ := List.cons.inj hsplit
            exact Or.inl ⟨rfl, hcased, hg, hs⟩
        | cons d u =>
            obtain ⟨rfl, rfl⟩ := List.cons.inj hsplit
            exact Or.inr ⟨u, g, rfl, hcased, hg, hs⟩

/-- Prefixes of one text are the same when they are equally long. -/
lemma eq_of_prefix_of_prefix {x y t : Text} (hx : x <+: t) (hy : y <+: t)
    (hlength : x.length = y.length) : x = y :=
  (List.prefix_of_prefix_length_le hx hy (Nat.le_of_eq hlength)).eq_of_length hlength

lemma lowerBefore_prefix_lower (p s : Text) : lowerBefore false p s <+: (p ++ s).lower := by
  rw [lower, lowerFrom_append]
  exact List.prefix_append _ _

lemma length_lowerBefore_eq (p s : Text) : (lowerBefore false p s).length = p.lower.length := by
  rw [length_lowerBefore, length_lower]

/-- **The lower-case form of the first part of a text is a prefix** of that of the text, unless the cut parts
a capital sigma from the rest of its word. -/
theorem lower_prefix_iff {p s : Text} : p.lower <+: (p ++ s).lower ↔ ¬ SplitsSigma p s := by
  have hsame : p.lower <+: (p ++ s).lower ↔ lowerBefore false p s = p.lower := by
    constructor
    · intro h
      exact eq_of_prefix_of_prefix (lowerBefore_prefix_lower p s) h (length_lowerBefore_eq p s)
    · intro h
      rw [← h]
      exact lowerBefore_prefix_lower p s
  rw [hsame, lower, lowerBefore_eq_iff, SplitsSigma]
  simp only [casedAfter_false]

/-! ## Where a lower-case form can be cut -/

lemma length_lower_le_of_prefix {p q : Text} (h : p <+: q) : p.lower.length ≤ q.lower.length := by
  obtain ⟨s, rfl⟩ := h
  rw [length_lower_append]
  exact Nat.le_add_right _ _

/-- **First parts of one text with equally long lower-case forms are the same.** -/
lemma eq_of_length_lower_eq {p q t : Text} (hp : p <+: t) (hq : q <+: t)
    (hlength : p.lower.length = q.lower.length) : p = q := by
  wlog hle : p.length ≤ q.length generalizing p q
  · exact (this hq hp hlength.symm (Nat.le_of_not_le hle)).symm
  have hpq := List.prefix_of_prefix_length_le hp hq hle
  have hcount := hpq.sublist.count_le dottedCapitalI
  rw [length_lower, length_lower] at hlength
  exact hpq.eq_of_length (by omega)

/-- **A cut of the lower-case form of a text** is a cut of the text, or it parts the two characters that a
dotted capital has become. -/
lemma exists_cut {t : Text} {n : Nat} (h : n ≤ t.lower.length) :
    (∃ p s, t = p ++ s ∧ p.lower.length = n) ∨
      ∃ u w, t = u ++ dottedCapitalI :: w ∧ u.lower.length + 1 = n := by
  induction t using List.reverseRecOn with
  | nil =>
      obtain rfl : n = 0 := Nat.le_zero.mp h
      exact Or.inl ⟨[], [], rfl, rfl⟩
  | append_singleton t c ih =>
      by_cases hle : n ≤ (Text.lower t).length
      · rcases ih hle with ⟨p, s, rfl, hp⟩ | ⟨u, w, rfl, hu⟩
        · exact Or.inl ⟨p, s ++ [c], List.append_assoc _ _ _, hp⟩
        · exact Or.inr ⟨u, w ++ [c], List.append_assoc _ _ _, hu⟩
      · by_cases hmiddle : c = dottedCapitalI ∧ n = (Text.lower t).length + 1
        · obtain ⟨rfl, rfl⟩ := hmiddle
          exact Or.inr ⟨t, [], rfl, rfl⟩
        · have hall : (Text.lower (t ++ [c])).length = n := by
            rw [length_lower_append, length_lower_singleton] at h ⊢
            by_cases hc : c = dottedCapitalI
            · have hne := not_and.mp hmiddle hc
              rw [if_pos hc] at h ⊢
              omega
            · rw [if_neg hc] at h ⊢
              omega
          exact Or.inl ⟨t ++ [c], [], (List.append_nil _).symm, hall⟩

end Text

end BranchPolicy
