import BranchPolicy.Glob.Matching
import BranchPolicy.Proofs.Glob.Language

/-!
# The matcher finds what a pattern stands for

The matcher marks places.  A mark after one element says that some stretch of the text ends there which
starts at an earlier mark and is matched by the element; marks after all elements are then ends of
stretches that the elements spell.

* `IsMarked`, `Leads` — marked places, and the places that a stretch leads to from a marked one.
* `GlobToken.Extends` — what may follow in a match of an element once it has begun.
* `isMarked_ends_iff` — the pass of one element over the text.
* **`Glob.isMarked_ends_iff`** — the passes of all elements.
* **`Glob.isMatch_iff`** — a pattern matches a text when it stands for a stretch of it, at the ends where
  the placement asks for it.
-/

namespace BranchPolicy

open Character (isDecimalDigit)

/-! ## Marks -/

/-- The place is marked. -/
def IsMarked (marks : List Bool) (place : Nat) : Prop :=
  marks[place]? = some true

lemma isMarked_cons_zero {b : Bool} {marks : List Bool} : IsMarked (b :: marks) 0 ↔ b = true := by
  simp [IsMarked]

lemma isMarked_cons_succ {b : Bool} {marks : List Bool} {place : Nat} :
    IsMarked (b :: marks) (place + 1) ↔ IsMarked marks place :=
  Iff.rfl

lemma isMarked_zero_iff {marks : List Bool} : IsMarked marks 0 ↔ marks.headD false = true := by
  cases marks <;> simp [IsMarked]

lemma isMarked_tail_iff {marks : List Bool} {place : Nat} :
    IsMarked marks.tail place ↔ IsMarked marks (place + 1) := by
  cases marks <;> simp [IsMarked]

/-- A stretch with a property ends at the place, and started at a marked one. -/
def Leads (P : Text → Prop) (starts : List Bool) (t : Text) (place : Nat) : Prop :=
  ∃ u m w, t = u ++ (m ++ w) ∧ u.length + m.length = place ∧ IsMarked starts u.length ∧ P m

/-- A stretch with a property is in front, and ends at the place. -/
def Fronts (P : Text → Prop) (t : Text) (place : Nat) : Prop :=
  ∃ m w, t = m ++ w ∧ m.length = place ∧ P m

lemma fronts_zero_iff {P : Text → Prop} {t : Text} : Fronts P t 0 ↔ P [] := by
  constructor
  · rintro ⟨m, w, rfl, hlength, hm⟩
    obtain rfl := List.length_eq_zero_iff.mp hlength
    exact hm
  · intro h
    exact ⟨[], t, rfl, rfl, h⟩

lemma not_fronts_nil {P : Text → Prop} {place : Nat} : ¬ Fronts P [] (place + 1) := by
  rintro ⟨m, w, ht, hlength, -⟩
  obtain ⟨rfl, -⟩ := List.append_eq_nil_iff.mp ht.symm
  exact absurd hlength (by simp)

lemma fronts_cons_iff {P Q : Text → Prop} {b : Prop} {c : Char} {cs : Text} {place : Nat}
    (h : ∀ m, P (c :: m) ↔ b ∧ Q m) :
    Fronts P (c :: cs) (place + 1) ↔ b ∧ Fronts Q cs place := by
  constructor
  · rintro ⟨_ | ⟨d, m⟩, w, ht, hlength, hm⟩
    · exact absurd hlength (by simp)
    · obtain ⟨rfl, rfl⟩ := List.cons.inj ht
      exact ⟨((h m).mp hm).1, m, w, rfl, Nat.succ.inj hlength, ((h m).mp hm).2⟩
  · rintro ⟨hb, m, w, rfl, rfl, hm⟩
    exact ⟨c :: m, w, rfl, rfl, (h m).mpr ⟨hb, hm⟩⟩

/-- A stretch that is not empty starts with the first character, or in the rest of the text. -/
lemma leads_succ_iff {P : Text → Prop} {starts : List Bool} {c : Char} {cs : Text} {place : Nat} :
    Leads P starts (c :: cs) (place + 1) ↔
      (starts.headD false = true ∧ Fronts P (c :: cs) (place + 1)) ∨
        Leads P starts.tail cs place := by
  constructor
  · rintro ⟨_ | ⟨d, u⟩, m, w, ht, hlength, hstart, hm⟩
    · exact .inl ⟨isMarked_zero_iff.mp hstart, m, w, ht, by simpa using hlength, hm⟩
    · obtain ⟨rfl, rfl⟩ := List.cons.inj ht
      refine .inr ⟨u, m, w, rfl, ?_, isMarked_tail_iff.mpr hstart, hm⟩
      rw [List.length_cons] at hlength
      omega
  · rintro (⟨hstart, m, w, ht, hlength, hm⟩ | ⟨u, m, w, rfl, rfl, hstart, hm⟩)
    · exact ⟨[], m, w, ht, by simpa using hlength, isMarked_zero_iff.mpr hstart, hm⟩
    · refine ⟨c :: u, m, w, rfl, ?_, isMarked_tail_iff.mp hstart, hm⟩
      rw [List.length_cons]
      omega

/-! ## One element -/

namespace GlobToken

/-- What may follow in a match of an element once it has begun. -/
def Extends : GlobToken → Text → Prop
  | .literal _, t => t = []
  | .digits, t => ∀ c ∈ t, isDecimalDigit c = true
  | .anything, _ => True

lemma extends_nil (token : GlobToken) : token.Extends [] := by
  cases token <;> simp [Extends]

lemma extends_cons_iff {token : GlobToken} {c : Char} {t : Text} :
    token.Extends (c :: t) ↔ token.reaches c false true = true ∧ token.Extends t := by
  cases token <;> simp [Extends, reaches]

lemma matches_cons_iff {token : GlobToken} {c : Char} {t : Text} :
    token.Matches (c :: t) ↔ token.reaches c true false = true ∧ token.Extends t := by
  cases token <;> simp [Matches, Extends, reaches]

/-- A match ends after a character because it begins with it or because it goes on with it. -/
lemma reaches_iff {token : GlobToken} {c : Char} {starts ends : Bool} :
    token.reaches c starts ends = true ↔
      (starts = true ∧ token.reaches c true false = true) ∨
        (ends = true ∧ token.reaches c false true = true) := by
  cases token <;> cases starts <;> cases ends <;> simp [reaches]

lemma length_ends (token : GlobToken) (ends : Bool) (t : Text) (starts : List Bool) :
    (token.ends ends t starts).length = t.length + 1 := by
  induction t generalizing ends starts with
  | nil => rfl
  | cons c cs ih => rw [GlobToken.ends, List.length_cons, ih, List.length_cons]

lemma not_leads_zero {token : GlobToken} {starts : List Bool} {t : Text} :
    ¬ Leads token.Matches starts t 0 := by
  rintro ⟨u, m, w, -, hlength, -, hm⟩
  exact hm.ne_nil (List.length_eq_zero_iff.mp (by omega))

lemma not_leads_nil {P : Text → Prop} {starts : List Bool} {place : Nat} :
    ¬ Leads P starts [] (place + 1) := by
  rintro ⟨u, m, w, ht, hlength, -, -⟩
  have hzero := congrArg List.length ht
  simp only [List.length_append, List.length_nil] at hzero
  omega

/-- **The pass of one element over a text.**  A place is marked when a match ends there that starts at a
marked place, or one that had begun before the text. -/
theorem isMarked_ends_iff {token : GlobToken} {ends : Bool} {t : Text} {starts : List Bool}
    {place : Nat} :
    IsMarked (token.ends ends t starts) place ↔
      (ends = true ∧ Fronts token.Extends t place) ∨ Leads token.Matches starts t place := by
  induction t generalizing ends starts place with
  | nil =>
      rw [GlobToken.ends]
      cases place with
      | zero => simp [isMarked_cons_zero, fronts_zero_iff, extends_nil, not_leads_zero]
      | succ place => simp [IsMarked, not_fronts_nil, not_leads_nil]
  | cons c cs ih =>
      rw [GlobToken.ends]
      cases place with
      | zero => simp [isMarked_cons_zero, fronts_zero_iff, extends_nil, not_leads_zero]
      | succ place =>
          -- a match that ends later goes on from the state after the first character
          rw [isMarked_cons_succ, leads_succ_iff, fronts_cons_iff fun _ => extends_cons_iff,
            fronts_cons_iff fun _ => matches_cons_iff]
          refine ih.trans ?_
          rw [reaches_iff]
          tauto

end GlobToken

/-! ## All elements -/

namespace Glob

lemma length_ends (tokens : List GlobToken) {t : Text} {starts : List Bool}
    (hstarts : starts.length = t.length + 1) : (ends tokens t starts).length = t.length + 1 := by
  induction tokens generalizing starts with
  | nil => exact hstarts
  | cons token tokens ih => exact ih (token.length_ends false t starts)

/-- **The passes of all elements.**  A place is marked in the end when a stretch that the elements spell
ends there, and started at a marked place. -/
theorem isMarked_ends_iff {tokens : List GlobToken} {t : Text} {starts : List Bool} {place : Nat}
    (hstarts : starts.length = t.length + 1) :
    IsMarked (ends tokens t starts) place ↔ Leads (Spells tokens) starts t place := by
  induction tokens generalizing starts with
  | nil =>
      constructor
      · intro h
        have hlt : place < starts.length := (List.getElem?_eq_some_iff.mp h).1
        have hlength : (t.take place).length = place := List.length_take_of_le (by omega)
        refine ⟨t.take place, [], t.drop place, (List.take_append_drop _ _).symm, ?_, ?_, Spells.nil⟩
        · simpa using hlength
        · rw [hlength]
          exact h
      · rintro ⟨u, m, w, rfl, rfl, hstart, hm⟩
        obtain rfl := spells_nil_iff.mp hm
        exact hstart
  | cons token tokens ih =>
      have hpass : ends (token :: tokens) t starts = ends tokens t (token.ends false t starts) := rfl
      rw [hpass, ih (token.length_ends false t starts)]
      constructor
      · rintro ⟨u, m, w, ht, rfl, hmark, hm⟩
        obtain ⟨u', m', w', ht', hlength, hstart, hm'⟩ :=
          (GlobToken.isMarked_ends_iff.mp hmark).resolve_left (by simp)
        -- the two ways to cut the text at the mark are the same
        obtain ⟨rfl, rfl⟩ : u' ++ m' = u ∧ w' = m ++ w := by
          refine List.append_inj ?_ (by simpa using hlength)
          rw [List.append_assoc, ← ht', ht]
        refine ⟨u', m' ++ m, w, by simpa using ht, ?_, hstart, Spells.cons hm' hm⟩
        simp only [List.length_append]
        omega
      · rintro ⟨u, m, w, rfl, rfl, hstart, hm⟩
        obtain ⟨m₁, m₂, rfl, hm₁, hm₂⟩ := spells_cons_iff.mp hm
        refine ⟨u ++ m₁, m₂, w, by simp, by simp [Nat.add_assoc], ?_, hm₂⟩
        refine GlobToken.isMarked_ends_iff.mpr (.inr ⟨u, m₁, m₂ ++ w, by simp, by simp, hstart, hm₁⟩)

/-! ## Placements -/

lemma isMarked_starts_iff {placement : Placement} {t : Text} {place : Nat} :
    IsMarked (starts placement t) place ↔
      place = 0 ∨ (placement.fixesStart = false ∧ place ≤ t.length) := by
  rw [starts]
  cases place with
  | zero => simp [isMarked_cons_zero]
  | succ place =>
      rw [isMarked_cons_succ, IsMarked, List.getElem?_replicate, Nat.add_one_le_iff]
      simp [and_comm]

/-- **A pattern matches a text** exactly when it stands for a stretch of it, which begins at the start
and ends at the end of the text if the placement asks for it. -/
theorem isMatch_iff {pattern : Text} {placement : Placement} {t : Text} :
    isMatch pattern placement t = true ↔
      ∃ u m w, t = u ++ (m ++ w) ∧ (placement.fixesStart = true → u = []) ∧
        (placement.fixesEnd = true → w = []) ∧ StandsFor pattern m := by
  have hlength : (starts placement t).length = t.length + 1 := by simp [starts]
  have hends := length_ends (tokens pattern) hlength
  have hstart : ∀ u v : Text, t = u ++ v →
      (IsMarked (starts placement t) u.length ↔ (placement.fixesStart = true → u = [])) := by
    rintro u v rfl
    rw [isMarked_starts_iff]
    cases placement.fixesStart <;> simp
  rw [isMatch]
  simp only [standsFor_iff_spells]
  by_cases hfixes : placement.fixesEnd = true
  · have hlast : ((ends (tokens pattern) t (starts placement t)).getLast? == some true) = true ↔
        IsMarked (ends (tokens pattern) t (starts placement t)) t.length := by
      rw [List.getLast?_eq_getElem?, hends, IsMarked, beq_iff_eq, Nat.add_sub_cancel]
    rw [if_pos hfixes, hlast, isMarked_ends_iff hlength]
    constructor
    · rintro ⟨u, m, w, ht, hplace, hmark, hm⟩
      obtain rfl : w = [] := by
        have := congrArg List.length ht
        simp only [List.length_append] at this
        exact List.length_eq_zero_iff.mp (by omega)
      exact ⟨u, m, [], ht, (hstart u _ ht).mp hmark, fun _ => rfl, hm⟩
    · rintro ⟨u, m, w, ht, hu, hw, hm⟩
      obtain rfl := hw hfixes
      exact ⟨u, m, [], ht, by simp [ht], (hstart u _ ht).mpr hu, hm⟩
  · have hany : (ends (tokens pattern) t (starts placement t)).any id = true ↔
        ∃ place, IsMarked (ends (tokens pattern) t (starts placement t)) place := by
      simp [List.mem_iff_getElem?, IsMarked]
    rw [if_neg hfixes, hany]
    simp only [isMarked_ends_iff hlength]
    constructor
    · rintro ⟨place, u, m, w, ht, -, hmark, hm⟩
      exact ⟨u, m, w, ht, (hstart u _ ht).mp hmark, fun h => absurd h hfixes, hm⟩
    · rintro ⟨u, m, w, ht, hu, -, hm⟩
      exact ⟨_, u, m, w, ht, rfl, (hstart u _ ht).mpr hu, hm⟩

end Glob

end BranchPolicy
