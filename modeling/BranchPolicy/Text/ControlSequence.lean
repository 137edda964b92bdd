import BranchPolicy.Text.Basic

/-!
# Control sequences

A control sequence tells a terminal to change a colour or to move its cursor. It starts with an
escape character and an opening bracket, and ends with the first character from the at sign on. A
stream that is no terminal is spared them.

* `Text.IsControlSequence` — the control sequences.
* `Text.Strips` — a text with some of its control sequences left out.
* `Text.controlSequence?` — the length of the control sequence at the start of a text, if it is one
  of digits, semicolons and question marks that ends with a Latin letter.
* `Text.visible` — a text without the sequences of that kind; `strips_visible` says that it has lost
  nothing else.
-/

namespace BranchPolicy.Text

/-- **A control sequence**: an escape character, an opening bracket, any number of characters from
the space to the question mark, and one from the at sign to the tilde. -/
def IsControlSequence (t : Text) : Prop :=
  ∃ parameters final, t = '\x1b' :: '[' :: (parameters ++ [final]) ∧
    (∀ c ∈ parameters, 0x20 ≤ c.toNat ∧ c.toNat ≤ 0x3F) ∧ 0x40 ≤ final.toNat ∧ final.toNat ≤ 0x7E

/-- **A text with some of its control sequences left out**, and nothing else. -/
inductive Strips : Text → Text → Prop
  | nil : Strips [] []
  | keep (c : Char) {t u : Text} (h : Strips t u) : Strips (c :: t) (c :: u)
  | drop {s t u : Text} (hs : IsControlSequence s) (h : Strips t u) : Strips (s ++ t) u

/-- Nothing has to be left out. -/
theorem strips_self (t : Text) : Strips t t := by
  induction t with
  | nil => exact .nil
  | cons c t ih => exact .keep c ih

/-! ## Leaving out sequences of parameters and a letter -/

/-- Whether a character may stand between the opening bracket and the letter of a control
sequence. -/
def isParameter (c : Char) : Bool :=
  c.isDigit || c == ';' || c == '?'

/-- The length of a control sequence whose first `width` characters have been read, if the text
goes on with the rest of one. -/
def controlSequenceFrom? : (width : Nat) → Text → Option Nat
  | _, [] => none
  | width, c :: cs =>
    if c.isAlpha then some (width + 1)
    else if isParameter c then controlSequenceFrom? (width + 1) cs
    else none

/-- The length of the control sequence at the start of a text, if there is one. -/
def controlSequence? : Text → Option Nat
  | '\x1b' :: '[' :: cs => controlSequenceFrom? 2 cs
  | _ => none

/-- A text without its control sequences, the first `skip` characters being part of one. -/
def visibleFrom : (skip : Nat) → Text → Text
  | _, [] => []
  | skip + 1, _ :: cs => visibleFrom skip cs
  | 0, c :: cs =>
    match controlSequence? (c :: cs) with
    | some width => visibleFrom (width - 1) cs
    | none => c :: visibleFrom 0 cs

/-- **A text without its control sequences.** They are dropped in one pass from the left, so that
what is left of two nested ones may look like a control sequence again. -/
def visible (t : Text) : Text :=
  visibleFrom 0 t

theorem toNat_of_isParameter {c : Char} (h : isParameter c = true) :
    0x20 ≤ c.toNat ∧ c.toNat ≤ 0x3F := by
  rcases (by simpa [isParameter] using h : (c.isDigit = true ∨ c = ';') ∨ c = '?') with
    (hdigit | rfl) | rfl
  · simp only [Char.isDigit, Bool.and_eq_true, decide_eq_true_eq, ge_iff_le, UInt32.le_iff_toNat_le]
      at hdigit
    have hle : 48 ≤ c.toNat ∧ c.toNat ≤ 57 := hdigit
    omega
  · decide
  · decide

theorem toNat_of_isAlpha {c : Char} (h : c.isAlpha = true) : 0x40 ≤ c.toNat ∧ c.toNat ≤ 0x7E := by
  rcases Bool.or_eq_true_iff.mp h with hupper | hlower
  · have hle : 65 ≤ c.toNat ∧ c.toNat ≤ 90 := of_decide_eq_true hupper
    omega
  · obtain ⟨hfirst, hlast⟩ := Bool.and_eq_true_iff.mp hlower
    have hle : 97 ≤ c.toNat ∧ c.toNat ≤ 122 := ⟨of_decide_eq_true hfirst, of_decide_eq_true hlast⟩
    omega

/-- What is read of a control sequence is parameters and a letter. -/
theorem exists_of_controlSequenceFrom? {width w : Nat} {t : Text}
    (h : controlSequenceFrom? width t = some w) :
    ∃ parameters final rest, t = parameters ++ final :: rest ∧ w = width + parameters.length + 1 ∧
      (∀ c ∈ parameters, isParameter c = true) ∧ final.isAlpha = true := by
  induction t generalizing width with
  | nil => exact absurd h (by simp [controlSequenceFrom?])
  | cons c t ih =>
    rw [controlSequenceFrom?] at h
    split at h
    · next hletter => exact ⟨[], c, t, rfl, (Option.some.inj h).symm, by simp, hletter⟩
    · split at h
      · next hparameter =>
        obtain ⟨parameters, final, rest, rfl, rfl, hparameters, hfinal⟩ := ih h
        refine ⟨c :: parameters, final, rest, rfl, ?_, ?_, hfinal⟩
        · simp only [List.length_cons]
          omega
        · exact List.forall_mem_cons.mpr ⟨hparameter, hparameters⟩
      · exact absurd h (by simp)

/-- The sequence that is found at the start of a text is a control sequence. -/
theorem exists_of_controlSequence? {t : Text} {width : Nat} (h : controlSequence? t = some width) :
    ∃ s rest, t = s ++ rest ∧ s.length = width ∧ IsControlSequence s := by
  unfold controlSequence? at h
  split at h
  · obtain ⟨parameters, final, rest, rfl, rfl, hparameters, hfinal⟩ :=
      exists_of_controlSequenceFrom? h
    refine ⟨'\x1b' :: '[' :: (parameters ++ [final]), rest, by simp, ?_, parameters, final, rfl,
      fun c hc => toNat_of_isParameter (hparameters c hc), toNat_of_isAlpha hfinal⟩
    simp only [List.length_cons, List.length_append, List.length_nil]
    omega
  · exact absurd h (by simp)

theorem strips_visibleFrom (skip : Nat) (t : Text) :
    Strips (t.drop skip) (visibleFrom skip t) := by
  induction t generalizing skip with
  | nil => simpa [visibleFrom] using Strips.nil
  | cons c t ih =>
    cases skip with
    | succ skip => exact ih skip
    | zero =>
      rw [visibleFrom]
      split
      · next width hwidth =>
        obtain ⟨s, rest, ht, rfl, hs⟩ := exists_of_controlSequence? hwidth
        cases s with
        | nil =>
          obtain ⟨_, _, hnil, -⟩ := hs
          exact absurd hnil (by simp)
        | cons d s =>
          rw [List.cons_append, List.cons.injEq] at ht
          obtain ⟨rfl, rfl⟩ := ht
          -- the other characters of the sequence are skipped
          have hrest := ih s.length
          rw [List.drop_left] at hrest
          exact .drop hs hrest
      · exact .keep c (ih 0)

/-- **A text without its control sequences has lost nothing else.** -/
theorem strips_visible (t : Text) : Strips t (visible t) :=
  strips_visibleFrom 0 t

end BranchPolicy.Text
