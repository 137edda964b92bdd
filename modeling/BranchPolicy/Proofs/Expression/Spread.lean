import BranchPolicy.Proofs.Expression.Extraction

/-!
# How calls are spread over an expression

Extraction drops blank pieces and trims the others, so it could lose characters.  This file says
what it loses: between the calls of an expression nothing stands but blanks and connectives, at
least one connective between each two.

* `Loose` — blanks and connectives, in any order.
* `IsGap` — a loose text with a connective in it.
* `Spread` — calls in order with gaps between them, each call but the last leaving no quote open.
* **`spread_trim`** — a text that does not start or end with a connective mark is its calls, spread.
* `exists_spread_text`, `spread_spaced` — so is a chain, printed without spaces around its connectives
  or with them.
* `Spread.filter_eq`, `Spread.head?_eq`, `Spread.getLast?_eq`, `Spread.foldl_eq` — what is the same
  for two texts over which the same calls are spread.
-/

namespace BranchPolicy.Expression

open Text (quoteAfter quoteOver isBlank isBlankChar trim)

/-! ## Between the calls -/

/-- Blanks and connectives, in any order. -/
inductive Loose : Text → Prop
  | blank {b : Text} (hb : isBlank b = true) : Loose b
  | operator {b g : Text} (hb : isBlank b = true) (k : Connective) (hg : Loose g) :
      Loose (b ++ (k.operator ++ g))

/-- Blanks and connectives with at least one connective. -/
inductive IsGap : Text → Prop
  | operator {b g : Text} (hb : isBlank b = true) (k : Connective) (hg : Loose g) :
      IsGap (b ++ (k.operator ++ g))

/-- **Calls in order with gaps between them.**  A gap is read outside quotes. -/
inductive Spread : List Text → Text → Prop
  | last (c : Text) : Spread [c] c
  | cons {c g t : Text} {cs : List Text} (hclosed : quoteOver none c = none) (hgap : IsGap g)
      (hrest : Spread cs t) : Spread (c :: cs) (c ++ (g ++ t))

lemma IsGap.loose {g : Text} (hg : IsGap g) : Loose g := by
  cases hg with
  | operator hb k hg => exact Loose.operator hb k hg

lemma Loose.blank_or_mark {g : Text} (hg : Loose g) {c : Char} (hc : c ∈ g) :
    isBlankChar c = true ∨ isConnectiveMark c = true := by
  induction hg with
  | blank hb => exact Or.inl (Text.isBlank_iff.mp hb c hc)
  | operator hb k hg ih =>
      rcases List.mem_append.mp hc with hc | hc
      · exact Or.inl (Text.isBlank_iff.mp hb c hc)
      · rcases List.mem_append.mp hc with hc | hc
        · rw [k.operator_eq] at hc
          simp only [List.mem_cons, List.not_mem_nil, or_false, or_self] at hc
          exact Or.inr (hc ▸ k.isConnectiveMark_mark)
        · exact ih hc

lemma Loose.not_mem {g : Text} (hg : Loose g) {c : Char} (hblank : isBlankChar c = false)
    (hmark : isConnectiveMark c = false) : c ∉ g := by
  intro hc
  rcases hg.blank_or_mark hc with h | h
  · exact absurd h (Bool.eq_false_iff.mp hblank)
  · exact absurd h (Bool.eq_false_iff.mp hmark)

lemma Loose.not_quote {g : Text} (hg : Loose g) {c : Char} (hc : c ∈ g) :
    Text.isQuote c = false := by
  rcases hg.blank_or_mark hc with h | h
  · exact Text.isQuote_of_isBlankChar h
  · exact isQuote_of_isConnectiveMark h

lemma isGap_spacedOperator (k : Connective) : IsGap k.spacedOperator := by
  rw [k.spacedOperator_eq]
  exact IsGap.operator (b := [' ']) (g := [' ']) rfl k (Loose.blank rfl)

/-! ## Expressions are spread -/

/-- A chain of which no item is kept is loose, and any other one is its kept items, spread between
two loose ends. -/
lemma loose_or_spread {K : Chain Text}
    (hclosed : ∀ p ∈ K.items.dropLast, quoteOver none p = none) :
    ((K.items.map trim).filter (!·.isEmpty) = [] ∧ Loose K.text) ∨
      ∃ y t z, K.text = y ++ (t ++ z) ∧ Loose y ∧ Loose z ∧
        Spread ((K.items.map trim).filter (!·.isEmpty)) t := by
  induction K with
  | last p =>
      by_cases hp : isBlank p = true
      · refine Or.inl ⟨?_, Loose.blank hp⟩
        simp [Chain.items, isEmpty_trim, hp]
      · obtain ⟨a, b, ha, hb, h⟩ := Text.exists_eq_append_trim_append p
        refine Or.inr ⟨a, trim p, b, h, Loose.blank ha, Loose.blank hb, ?_⟩
        simpa [Chain.items, isEmpty_trim, hp] using Spread.last (trim p)
  | next p k rest ih =>
      rw [Chain.items, List.dropLast_cons_of_ne_nil rest.items_ne_nil] at hclosed
      have ih' := ih fun q hq => hclosed q (List.mem_cons_of_mem _ hq)
      obtain ⟨a, b, ha, hb, h⟩ := Text.exists_eq_append_trim_append p
      by_cases hp : isBlank p = true
      · -- a blank item widens the loose end that follows it
        have hskip : ((Chain.next p k rest).items.map trim).filter (!·.isEmpty)
            = (rest.items.map trim).filter (!·.isEmpty) := by
          simp [Chain.items, isEmpty_trim, hp]
        rw [hskip, Chain.text_next]
        rcases ih' with ⟨hnil, hloose⟩ | ⟨y, t, z, htext, hy, hz, hspread⟩
        · exact Or.inl ⟨hnil, Loose.operator hp k hloose⟩
        · refine Or.inr ⟨p ++ (k.operator ++ y), t, z, ?_, Loose.operator hp k hy, hz, hspread⟩
          rw [htext]
          simp only [List.append_assoc]
      · -- a kept item makes a gap of the loose end that follows it
        have hkeep : ((Chain.next p k rest).items.map trim).filter (!·.isEmpty)
            = trim p :: (rest.items.map trim).filter (!·.isEmpty) := by
          simp [Chain.items, isEmpty_trim, hp]
        rw [hkeep, Chain.text_next]
        rcases ih' with ⟨hnil, hloose⟩ | ⟨y, t, z, htext, hy, hz, hspread⟩
        · refine Or.inr ⟨a, trim p, b ++ (k.operator ++ rest.text), ?_, Loose.blank ha,
            Loose.operator hb k hloose, ?_⟩
          · conv => lhs; rw [h]
            simp only [List.append_assoc]
          · rw [hnil]
            exact Spread.last (trim p)
        · refine Or.inr ⟨a, trim p ++ ((b ++ (k.operator ++ y)) ++ t), z, ?_, Loose.blank ha, hz,
            Spread.cons ?_ (IsGap.operator hb k hy) hspread⟩
          · conv => lhs; rw [h]
            rw [htext]
            simp only [List.append_assoc]
          · rw [quoteOver_trim]
            exact hclosed p List.mem_cons_self

/-- A character that is neither blank nor a mark is not in what is loose. -/
lemma Loose.eq_nil_of_head? {y t : Text} (hy : Loose y)
    (h : ∀ c ∈ (y ++ t).head?, isBlankChar c = false ∧ isConnectiveMark c = false) : y = [] := by
  cases y with
  | nil => rfl
  | cons c y =>
      obtain ⟨hblank, hmark⟩ := h c rfl
      exact absurd List.mem_cons_self (hy.not_mem hblank hmark)

lemma Loose.eq_nil_of_getLast? {z t : Text} (hz : Loose z)
    (h : ∀ c ∈ (t ++ z).getLast?, isBlankChar c = false ∧ isConnectiveMark c = false) :
    z = [] := by
  rcases List.eq_nil_or_concat z with rfl | ⟨z, c, rfl⟩
  · rfl
  · rw [List.concat_eq_append] at hz h
    obtain ⟨hblank, hmark⟩ := h c (by rw [← List.append_assoc, List.getLast?_concat]; rfl)
    exact absurd (List.mem_append_right z List.mem_cons_self) (hz.not_mem hblank hmark)

/-- **An expression is its calls, spread**, if it is not blank and no connective mark stands at an
end of it. -/
theorem spread_trim {expression : Text} (hne : expression.trim ≠ [])
    (hhead : ∀ c ∈ expression.trim.head?, isConnectiveMark c = false)
    (hlast : ∀ c ∈ expression.trim.getLast?, isConnectiveMark c = false) :
    Spread (sourceGroups expression).flatten expression.trim := by
  have hflatten : (sourceGroups expression).flatten
      = ((scan none expression.trim).items.map trim).filter (!·.isEmpty) := by
    rw [flatten_sourceGroups, ← Chain.items_map, ← Chain.items_map, map_trim_scan_trim]
  have hhead' : ∀ c ∈ expression.trim.head?, isBlankChar c = false ∧ isConnectiveMark c = false :=
    fun c hc => ⟨Text.not_blank_of_head?_trim hc, hhead c hc⟩
  have hlast' : ∀ c ∈ expression.trim.getLast?,
      isBlankChar c = false ∧ isConnectiveMark c = false :=
    fun c hc => ⟨Text.not_blank_of_getLast?_trim hc, hlast c hc⟩
  have hclosed : ∀ p ∈ (scan none expression.trim).items.dropLast, quoteOver none p = none :=
    fun p hp => (isScanned_scan none expression.trim).quoteOver_eq_none hp
  have htext := text_scan none expression.trim
  rw [hflatten]
  rcases loose_or_spread hclosed with ⟨-, hloose⟩ | ⟨y, t, z, h, hy, hz, hspread⟩
  · -- a loose text would start with a blank character or a mark
    rw [htext] at hloose
    refine absurd (hloose.eq_nil_of_head? (t := []) ?_) hne
    rw [List.append_nil]
    exact hhead'
  · rw [htext] at h
    have hy' : y = [] := hy.eq_nil_of_head? (t := t ++ z) (by rw [← h]; exact hhead')
    have hz' : z = [] := by
      refine hz.eq_nil_of_getLast? (t := y ++ t) ?_
      rw [List.append_assoc, ← h]
      exact hlast'
    rw [hy', hz', List.nil_append, List.append_nil] at h
    rw [← h] at hspread
    exact hspread

/-- A chain of pieces without open quotes is its trimmed items, spread between two blanks. -/
lemma exists_spread_text {K : Chain Text} (hclosed : ∀ p ∈ K.items, quoteOver none p = none) :
    ∃ a t b, K.text = a ++ (t ++ b) ∧ isBlank a = true ∧ isBlank b = true ∧
      Spread (K.items.map trim) t := by
  induction K with
  | last p =>
      obtain ⟨a, b, ha, hb, h⟩ := Text.exists_eq_append_trim_append p
      exact ⟨a, trim p, b, h, ha, hb, Spread.last (trim p)⟩
  | next p k rest ih =>
      obtain ⟨y, t, z, htext, hy, hz, hspread⟩ :=
        ih fun q hq => hclosed q (List.mem_cons_of_mem _ hq)
      obtain ⟨a, b, ha, hb, h⟩ := Text.exists_eq_append_trim_append p
      refine ⟨a, trim p ++ ((b ++ (k.operator ++ y)) ++ t), z, ?_, ha, hz,
        Spread.cons ?_ (IsGap.operator hb k (Loose.blank hy)) hspread⟩
      · rw [Chain.text_next, htext]
        conv => lhs; rw [h]
        simp only [List.append_assoc]
      · rw [quoteOver_trim]
        exact hclosed p List.mem_cons_self

lemma spread_spaced {K : Chain Text} (hclosed : ∀ p ∈ K.items.dropLast, quoteOver none p = none) :
    Spread K.items K.spaced := by
  induction K with
  | last p => exact Spread.last p
  | next p k rest ih =>
      rw [Chain.items, List.dropLast_cons_of_ne_nil rest.items_ne_nil] at hclosed
      exact Spread.cons (hclosed p List.mem_cons_self) (isGap_spacedOperator k)
        (ih fun q hq => hclosed q (List.mem_cons_of_mem _ hq))

/-! ## What the gaps cannot change

Two texts over which the same calls are spread differ in their gaps only.  Whatever ignores blank
characters and connective marks is the same for both, and so is the end of a scan that any two gaps
take to the same state. -/

/-- A class of characters without blank characters and marks only counts in the calls. -/
lemma Spread.filter_eq {p : Char → Bool}
    (hp : ∀ c, isBlankChar c = true ∨ isConnectiveMark c = true → p c = false) {cs : List Text}
    {t : Text} (h : Spread cs t) : t.filter p = cs.flatten.filter p := by
  induction h with
  | last c => simp
  | cons hclosed hgap hrest ih =>
      rename_i c g t cs
      have hg : g.filter p = [] := by
        rw [List.filter_eq_nil_iff]
        intro d hd
        rw [hp d (hgap.loose.blank_or_mark hd)]
        exact Bool.false_ne_true
      rw [List.filter_append, List.filter_append, hg, List.nil_append, ih, List.flatten_cons,
        List.filter_append]

lemma Spread.head?_eq {cs : List Text} {t : Text} (h : Spread cs t) (hne : ∀ c ∈ cs, c ≠ []) :
    t.head? = cs.flatten.head? := by
  cases h with
  | last c => simp
  | @cons c g t cs hclosed hgap hrest =>
      have hc : c ≠ [] := hne c List.mem_cons_self
      rw [List.flatten_cons, List.head?_append_of_ne_nil _ hc, List.head?_append_of_ne_nil _ hc]

lemma Spread.getLast?_eq {cs : List Text} {t : Text} (h : Spread cs t) (hne : ∀ c ∈ cs, c ≠ []) :
    t.getLast? = cs.flatten.getLast? := by
  induction h with
  | last c => simp
  | @cons c g t cs hclosed hgap hrest ih =>
      have hcs : ∀ c ∈ cs, c ≠ [] := fun d hd => hne d (List.mem_cons_of_mem _ hd)
      have hflat : cs.flatten ≠ [] := by
        cases hrest with
        | last c => simpa using hcs
        | @cons c g t cs _ _ _ => simp [hcs c List.mem_cons_self]
      have ht : t ≠ [] := by
        intro hnil
        rw [hnil] at ih
        exact hflat (List.getLast?_eq_none_iff.mp (ih hcs).symm)
      rw [List.flatten_cons, List.getLast?_append_of_ne_nil _ hflat, ← ih hcs, ← List.append_assoc,
        List.getLast?_append_of_ne_nil _ ht]

/-- A text over which calls are spread starts as one of them does, and ends as one of them does. -/
lemma Spread.exists_head?_eq {cs : List Text} {t : Text} (h : Spread cs t)
    (hne : ∀ c ∈ cs, c ≠ []) : ∃ c ∈ cs, t.head? = c.head? := by
  cases h with
  | last => exact ⟨t, List.mem_cons_self, rfl⟩
  | @cons c g t cs hclosed hgap hrest =>
      exact ⟨c, List.mem_cons_self, List.head?_append_of_ne_nil c (hne c List.mem_cons_self)⟩

lemma Spread.exists_getLast?_eq {cs : List Text} {t : Text} (h : Spread cs t)
    (hne : ∀ c ∈ cs, c ≠ []) : ∃ c ∈ cs, t.getLast? = c.getLast? := by
  induction h with
  | last c => exact ⟨c, List.mem_cons_self, rfl⟩
  | @cons c g t cs hclosed hgap hrest ih =>
      obtain ⟨d, hd, hlast⟩ := ih fun d hd => hne d (List.mem_cons_of_mem _ hd)
      have ht : t ≠ [] := by
        rintro rfl
        exact hne d (List.mem_cons_of_mem _ hd) (List.getLast?_eq_none_iff.mp hlast.symm)
      refine ⟨d, List.mem_cons_of_mem _ hd, ?_⟩
      rw [← List.append_assoc, List.getLast?_append_of_ne_nil _ ht, hlast]

lemma Spread.trim_eq {cs : List Text} {t : Text} (h : Spread cs t) (hne : ∀ c ∈ cs, c ≠ [])
    (htrim : ∀ c ∈ cs, trim c = c) : trim t = t := by
  obtain ⟨c, hc, hhead⟩ := h.exists_head?_eq hne
  obtain ⟨d, hd, hlast⟩ := h.exists_getLast?_eq hne
  refine Text.trim_eq_self (fun e he => ?_) fun e he => ?_
  · rw [hhead, ← htrim c hc] at he
    exact Text.not_blank_of_head?_trim he
  · rw [hlast, ← htrim d hd] at he
    exact Text.not_blank_of_getLast?_trim he

/-- **A scan that takes any two gaps to the same state ends in the same state on two texts over
which the same calls are spread.**  The invariant `P` says that the scan stands outside quotes; every
call that is followed by a gap has to keep it. -/
theorem Spread.foldl_eq {σ : Type} {step : σ → Char → σ} {P : σ → Prop}
    (hcall : ∀ {s c}, P s → quoteOver none c = none → P (c.foldl step s))
    (hgap : ∀ {s g g'}, P s → IsGap g → IsGap g' →
      g.foldl step s = g'.foldl step s ∧ P (g.foldl step s))
    {cs : List Text} {t t' : Text} {s : σ} (h : Spread cs t) (h' : Spread cs t') (hs : P s) :
    t.foldl step s = t'.foldl step s := by
  induction h generalizing t' s with
  | last c =>
      cases h' with
      | last => rfl
      | cons _ _ hrest => cases hrest
  | @cons c g t cs hclosed hg hrest ih =>
      cases h' with
      | last => cases hrest
      | @cons _ g' t' _ _ hg' hrest' =>
          obtain ⟨heq, hP⟩ := hgap (hcall hs hclosed) hg hg'
          rw [List.foldl_append, List.foldl_append, List.foldl_append, List.foldl_append, ← heq]
          exact ih hrest' hP

end BranchPolicy.Expression
