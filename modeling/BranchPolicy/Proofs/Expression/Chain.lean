import BranchPolicy.Shape.Connectives
import BranchPolicy.Proofs.Text.QuoteState

/-!
# Chains and the one-pass scan

The library reads an expression in two passes: it cuts the text at `||` outside quotes and each
piece again at `&&`, with the quote state restarted for every piece.  The proofs want one pass.
This file supplies it.

* `Chain` — items with a connective between each two; there is always an item.
* `Chain.groups`, `Chain.items` — the items clause by clause, and all of them in order.
* `Chain.text` — a chain of texts printed without spacing.
* `Expression.scan` — the one-pass scan of a text into a chain of pieces.
* `text_scan` — the scan loses nothing.
* `scan_append` — how the scan of a text is put together from the scans of its parts.  This is
  the workhorse: whatever is printed piece by piece is scanned piece by piece.
-/

namespace BranchPolicy

/-! ## Connectives -/

namespace Connective

def operator : Connective → Text
  | .and => andOperator
  | .or => orOperator

/-- The text of a connective with a space on either side. -/
def spacedOperator : Connective → Text
  | .and => " && ".toList
  | .or => " || ".toList

lemma spacedOperator_eq (k : Connective) : k.spacedOperator = [' '] ++ (k.operator ++ [' ']) := by
  cases k <;> rfl

/-- The connective that a character is the mark of. -/
def ofMark? (c : Char) : Option Connective :=
  if c == Connective.and.mark then some .and else if c == Connective.or.mark then some .or else none

lemma operator_eq (k : Connective) : k.operator = [k.mark, k.mark] := by
  cases k <;> rfl

lemma ofMark?_eq_some_iff {c : Char} {k : Connective} : ofMark? c = some k ↔ c = k.mark := by
  cases k with
  | and => simp [ofMark?]
  | or =>
      by_cases h : c = Connective.and.mark
      · simp [ofMark?, h, mark]
      · simp [ofMark?, h]

lemma mark_inj {j k : Connective} : j.mark = k.mark ↔ j = k := by
  cases j <;> cases k <;> decide

lemma isConnectiveMark_mark (k : Connective) : isConnectiveMark k.mark = true := by
  cases k <;> rfl

lemma isQuote_mark (k : Connective) : Text.isQuote k.mark = false := by
  cases k <;> rfl

lemma isBlankChar_mark (k : Connective) : Text.isBlankChar k.mark = false := by
  cases k <;> rfl

end Connective

lemma isConnectiveMark_iff {c : Char} :
    isConnectiveMark c = true ↔ ∃ k : Connective, c = k.mark := by
  simp only [isConnectiveMark, Bool.or_eq_true, beq_iff_eq]
  constructor
  · rintro (h | h)
    · exact ⟨.and, h⟩
    · exact ⟨.or, h⟩
  · rintro ⟨k, rfl⟩
    cases k
    · exact Or.inl rfl
    · exact Or.inr rfl

@[simp] lemma Connective.ofMark?_mark (k : Connective) : ofMark? k.mark = some k :=
  ofMark?_eq_some_iff.mpr rfl

lemma ne_mark_of_not_mark {c : Char} (hc : isConnectiveMark c = false) (k : Connective) :
    c ≠ k.mark := by
  rintro rfl
  rw [k.isConnectiveMark_mark] at hc
  exact Bool.noConfusion hc

lemma Connective.ofMark?_eq_none {c : Char} (hc : isConnectiveMark c = false) : ofMark? c = none := by
  by_contra h
  obtain ⟨k, hk⟩ := Option.ne_none_iff_exists'.mp h
  exact ne_mark_of_not_mark hc k (ofMark?_eq_some_iff.mp hk)

lemma isQuote_of_isConnectiveMark {c : Char} (h : isConnectiveMark c = true) :
    Text.isQuote c = false := by
  obtain ⟨k, rfl⟩ := isConnectiveMark_iff.mp h
  exact k.isQuote_mark

lemma isConnectiveMark_of_isBlankChar {c : Char} (h : Text.isBlankChar c = true) :
    isConnectiveMark c = false := by
  by_contra hc
  obtain ⟨k, rfl⟩ := isConnectiveMark_iff.mp (Bool.not_eq_false _ ▸ hc)
  rw [k.isBlankChar_mark] at h
  exact Bool.noConfusion h

/-! ## Chains -/

/-- **Items joined by connectives.**  A chain has at least one item and a connective between each
two. -/
inductive Chain (α : Type) where
  | last (item : α)
  | next (item : α) (connective : Connective) (rest : Chain α)

namespace Chain

variable {α β : Type}

def items : Chain α → List α
  | last a => [a]
  | next a _ rest => a :: rest.items

/-- The items clause by clause: `||` ends a clause and `&&` continues it. -/
def groups : Chain α → List (List α)
  | last a => [[a]]
  | next a .and rest => rest.groups.modifyHead (a :: ·)
  | next a .or rest => [a] :: rest.groups

def map (f : α → β) : Chain α → Chain β
  | last a => last (f a)
  | next a k rest => next (f a) k (rest.map f)

def first : Chain α → α
  | last a => a
  | next a _ _ => a

@[simp] lemma items_map (f : α → β) (K : Chain α) : (K.map f).items = K.items.map f := by
  induction K with
  | last a => rfl
  | next a k rest ih => simp [map, items, ih]

lemma items_ne_nil (K : Chain α) : K.items ≠ [] := by
  cases K <;> simp [items]

lemma groups_ne_nil (K : Chain α) : K.groups ≠ [] := by
  induction K with
  | last a => simp [groups]
  | next a k rest ih => cases k <;> simp [groups, ih]

lemma nil_not_mem_groups (K : Chain α) : [] ∉ K.groups := by
  induction K with
  | last a => simp [groups]
  | next a k rest ih =>
      cases k with
      | or => simpa [groups] using ih
      | and =>
          obtain ⟨g, gs, hg⟩ := List.exists_cons_of_ne_nil rest.groups_ne_nil
          rw [hg] at ih
          simp only [groups, hg, List.modifyHead_cons, List.mem_cons, not_or] at ih ⊢
          exact ⟨(List.cons_ne_nil a g).symm, ih.2⟩

@[simp] lemma groups_map (f : α → β) (K : Chain α) :
    (K.map f).groups = K.groups.map (List.map f) := by
  induction K with
  | last a => rfl
  | next a k rest ih =>
      cases k with
      | or => simp [map, groups, ih]
      | and =>
          obtain ⟨g, gs, hg⟩ := List.exists_cons_of_ne_nil rest.groups_ne_nil
          simp [map, groups, ih, hg]

@[simp] lemma flatten_groups (K : Chain α) : K.groups.flatten = K.items := by
  induction K with
  | last a => rfl
  | next a k rest ih =>
      cases k with
      | or => simp [groups, items, ih]
      | and =>
          obtain ⟨g, gs, hg⟩ := List.exists_cons_of_ne_nil rest.groups_ne_nil
          rw [hg, List.flatten_cons] at ih
          simp [groups, items, hg, ih]

/-- Lists of lists are the groups of a chain as soon as none of them is empty. -/
lemma exists_groups_eq {gs : List (List α)} (hne : gs ≠ []) (hmem : [] ∉ gs) :
    ∃ K : Chain α, K.groups = gs := by
  induction gs with
  | nil => exact absurd rfl hne
  | cons g gs ih =>
      simp only [List.mem_cons, not_or] at hmem
      -- the chain of the first clause, given the chain of the clauses after it
      have extend : ∀ (g : List α), g ≠ [] → ∃ K : Chain α, K.groups = g :: gs := by
        intro g
        induction g with
        | nil => exact fun h => absurd rfl h
        | cons a g ihg =>
            intro _
            cases g with
            | cons b g =>
                obtain ⟨K, hK⟩ := ihg (List.cons_ne_nil b g)
                exact ⟨next a .and K, by simp [groups, hK]⟩
            | nil =>
                cases gs with
                | nil => exact ⟨last a, rfl⟩
                | cons g' gs' =>
                    obtain ⟨K, hK⟩ := ih (List.cons_ne_nil g' gs') hmem.2
                    exact ⟨next a .or K, by simp [groups, hK]⟩
      exact extend g (Ne.symm hmem.1)

/-! ## Chains of texts -/

/-- The pieces of a chain with a text for each connective between them. -/
def join (operator : Connective → Text) : Chain Text → Text
  | last p => p
  | next p k rest => p ++ (operator k ++ rest.join operator)

/-- The text of a chain, without any spacing. -/
def text (K : Chain Text) : Text :=
  K.join Connective.operator

/-- The text of a chain with one space on either side of each connective. -/
def spaced (K : Chain Text) : Text :=
  K.join Connective.spacedOperator

@[simp] lemma text_last (p : Text) : (last p).text = p := rfl

@[simp] lemma text_next (p : Text) (k : Connective) (rest : Chain Text) :
    (next p k rest).text = p ++ (k.operator ++ rest.text) := rfl

@[simp] lemma spaced_last (p : Text) : (last p).spaced = p := rfl

@[simp] lemma spaced_next (p : Text) (k : Connective) (rest : Chain Text) :
    (next p k rest).spaced = p ++ (k.spacedOperator ++ rest.spaced) := rfl

/-- Puts a text in front of the first piece. -/
def prepend (x : Text) : Chain Text → Chain Text
  | last p => last (x ++ p)
  | next p k rest => next (x ++ p) k rest

/-- Joins two chains into one; the last piece of the one and the first of the other become one
piece. -/
def glue : Chain Text → Chain Text → Chain Text
  | last p, L => L.prepend p
  | next p k rest, L => next p k (rest.glue L)

@[simp] lemma prepend_nil (K : Chain Text) : K.prepend [] = K := by
  cases K <;> rfl

lemma prepend_append (x y : Text) (K : Chain Text) :
    K.prepend (x ++ y) = (K.prepend y).prepend x := by
  cases K <;> simp [prepend]

lemma prepend_glue (x : Text) (K L : Chain Text) :
    (K.prepend x).glue L = (K.glue L).prepend x := by
  cases K with
  | last p => exact prepend_append x p L
  | next p k rest => rfl

@[simp] lemma text_prepend (x : Text) (K : Chain Text) : (K.prepend x).text = x ++ K.text := by
  cases K <;> simp [prepend]

lemma groups_prepend (x : Text) (K : Chain Text) :
    (K.prepend x).groups = K.groups.modifyHead (List.modifyHead (x ++ ·)) := by
  cases K with
  | last p => rfl
  | next p k rest =>
      cases k with
      | or => rfl
      | and =>
          obtain ⟨g, gs, hg⟩ := List.exists_cons_of_ne_nil rest.groups_ne_nil
          simp [prepend, groups, hg]

/-- A joined chain is its clauses joined by the text for `||`, each being its pieces joined by the
text for `&&`. -/
lemma join_eq_intercalate (operator : Connective → Text) (K : Chain Text) :
    K.join operator
      = (operator .or).intercalate (K.groups.map (operator .and).intercalate) := by
  induction K with
  | last p => simp [join, groups]
  | next p k rest ih =>
      obtain ⟨g, gs, hg⟩ := List.exists_cons_of_ne_nil rest.groups_ne_nil
      have hne : g ≠ [] := fun h => rest.nil_not_mem_groups (by simp [hg, h])
      rw [join, ih, hg]
      cases k with
      | or => simp [groups, hg, List.intercalate_cons_cons]
      | and =>
          cases gs with
          | nil => simp [groups, hg, List.intercalate_cons_of_ne_nil hne]
          | cons g' gs =>
              simp [groups, hg, List.intercalate_cons_cons, List.intercalate_cons_of_ne_nil hne]

lemma first_prefix_text (K : Chain Text) : K.first <+: K.text := by
  cases K with
  | last p => exact List.prefix_rfl
  | next p k rest => exact List.prefix_append _ _

lemma mem_text_of_mem_items {K : Chain Text} {p : Text} (hp : p ∈ K.items) {c : Char} (hc : c ∈ p) :
    c ∈ K.text := by
  induction K with
  | last q =>
      obtain rfl := List.mem_singleton.mp hp
      exact hc
  | next q k rest ih =>
      rw [text_next]
      rcases List.mem_cons.mp hp with rfl | hp
      · exact List.mem_append_left _ hc
      · exact List.mem_append_right _ (List.mem_append_right _ (ih hp))

end Chain

/-! ## The scan -/

namespace Expression

open Text (quoteAfter quoteOver)

/-- The connective that two neighbouring characters write with the quote `q` open; inside quotes
they write none. -/
def connectiveAt? (q : Option Char) (c d : Char) : Option Connective :=
  if q.isNone && c == d then Connective.ofMark? c else none

/-- **The one-pass scan.**  It reads a text from the left with the quote `q` open, cuts at each
connective outside quotes as it meets it, and keeps every other character. -/
def scan : (q : Option Char) → Text → Chain Text
  | _, [] => .last []
  | _, [c] => .last [c]
  | q, c :: d :: cs =>
    match connectiveAt? q c d with
    | some k => .next [] k (scan none cs)
    | none => (scan (quoteAfter q c) (d :: cs)).prepend [c]

lemma connectiveAt?_eq_some_iff {q : Option Char} {c d : Char} {k : Connective} :
    connectiveAt? q c d = some k ↔ q = none ∧ c = k.mark ∧ d = k.mark := by
  simp only [connectiveAt?]
  constructor
  · intro h
    split at h
    · next hcond =>
        simp only [Bool.and_eq_true, Option.isNone_iff_eq_none, beq_iff_eq] at hcond
        have hc := Connective.ofMark?_eq_some_iff.mp h
        exact ⟨hcond.1, hc, hcond.2 ▸ hc⟩
    · exact absurd h (by simp)
  · rintro ⟨rfl, rfl, rfl⟩
    simp

lemma connectiveAt?_of_not_mark_left {q : Option Char} {c : Char}
    (hc : isConnectiveMark c = false) (d : Char) : connectiveAt? q c d = none := by
  by_contra h
  obtain ⟨k, hk⟩ := Option.ne_none_iff_exists'.mp h
  exact ne_mark_of_not_mark hc k (connectiveAt?_eq_some_iff.mp hk).2.1

lemma connectiveAt?_of_not_mark_right {q : Option Char} (c : Char) {d : Char}
    (hd : isConnectiveMark d = false) : connectiveAt? q c d = none := by
  by_contra h
  obtain ⟨k, hk⟩ := Option.ne_none_iff_exists'.mp h
  exact ne_mark_of_not_mark hd k (connectiveAt?_eq_some_iff.mp hk).2.2

/-- A connective at the front of a text ends the first piece. -/
lemma scan_operator (k : Connective) (y : Text) :
    scan none (k.operator ++ y) = .next [] k (scan none y) := by
  have h : connectiveAt? none k.mark k.mark = some k :=
    connectiveAt?_eq_some_iff.mpr ⟨rfl, rfl, rfl⟩
  rw [k.operator_eq, List.cons_append, List.cons_append, List.nil_append, scan, h]

/-- **The scan loses nothing.** -/
theorem text_scan (q : Option Char) (t : Text) : (scan q t).text = t := by
  fun_induction scan q t with
  | case1 => rfl
  | case2 => rfl
  | case3 q c d cs k hk ih =>
      obtain ⟨-, rfl, rfl⟩ := connectiveAt?_eq_some_iff.mp hk
      simp [ih, k.operator_eq]
  | case4 q c d cs hk ih => simp [ih]

/-- **The scan of a text is put together from the scans of its parts**, as long as no connective
stands across the seam. -/
theorem scan_append {q : Option Char} {x y : Text}
    (hseam : (∀ c ∈ x.getLast?, isConnectiveMark c = false) ∨
      ∀ c ∈ y.head?, isConnectiveMark c = false) :
    scan q (x ++ y) = (scan q x).glue (scan (quoteOver q x) y) := by
  fun_induction scan q x with
  | case1 => simp [Chain.glue]
  | case2 q c =>
      cases y with
      | nil => simp [scan, Chain.glue, Chain.prepend]
      | cons d ys =>
          have hnone : connectiveAt? q c d = none := by
            rcases hseam with h | h
            · exact connectiveAt?_of_not_mark_left (h c rfl) d
            · exact connectiveAt?_of_not_mark_right c (h d rfl)
          rw [List.singleton_append, scan, hnone]
          rfl
  | case3 q c d cs k hk ih =>
      obtain ⟨rfl, rfl, rfl⟩ := connectiveAt?_eq_some_iff.mp hk
      have hseam' : (∀ c ∈ cs.getLast?, isConnectiveMark c = false) ∨
          ∀ c ∈ y.head?, isConnectiveMark c = false := by
        refine hseam.imp_left fun h c hc => h c ?_
        rw [List.getLast?_cons_cons, List.getLast?_cons, Option.mem_def.mp hc]
        rfl
      have hstate : quoteOver none (k.mark :: k.mark :: cs) = quoteOver none cs := by
        rw [Text.quoteOver_cons, Text.quoteOver_cons,
          Text.quoteAfter_none_of_not_quote k.isQuote_mark,
          Text.quoteAfter_none_of_not_quote k.isQuote_mark]
      rw [List.cons_append, List.cons_append, scan, hk, ih hseam', hstate]
      rfl
  | case4 q c d cs hk ih =>
      have hseam' : (∀ c ∈ (d :: cs).getLast?, isConnectiveMark c = false) ∨
          ∀ c ∈ y.head?, isConnectiveMark c = false := by
        refine hseam.imp_left fun h c hc => h c ?_
        rw [List.getLast?_cons_cons]
        exact hc
      rw [List.cons_append, List.cons_append, scan, hk, ← List.cons_append, ih hseam',
        Chain.prepend_glue]
      rfl

lemma scan_of_not_mark {q : Option Char} {t : Text}
    (ht : ∀ c ∈ t, isConnectiveMark c = false) : scan q t = .last t := by
  fun_induction scan q t with
  | case1 => rfl
  | case2 => rfl
  | case3 q c d cs k hk ih =>
      have hc := ht c List.mem_cons_self
      rw [connectiveAt?_of_not_mark_left hc] at hk
      exact absurd hk (by simp)
  | case4 q c d cs hk ih =>
      rw [ih fun e he => ht e (List.mem_cons_of_mem _ he)]
      rfl

/-- **Scanning undoes joining.**  A chain of pieces without marks that leave no quote open is given back
when its text is scanned. -/
theorem scan_chain_text {K : Chain Text} (hmark : ∀ p ∈ K.items, ∀ c ∈ p, isConnectiveMark c = false)
    (hclosed : ∀ p ∈ K.items, quoteOver none p = none) : scan none K.text = K := by
  induction K with
  | last p => exact scan_of_not_mark (hmark p List.mem_cons_self)
  | next p k rest ih =>
      have hp := hmark p List.mem_cons_self
      have hrest := ih (fun q hq => hmark q (List.mem_cons_of_mem _ hq))
        fun q hq => hclosed q (List.mem_cons_of_mem _ hq)
      rw [Chain.text_next, scan_append (Or.inl fun c hc => hp c (List.mem_of_mem_getLast? hc)),
        scan_of_not_mark hp, hclosed p List.mem_cons_self, scan_operator, hrest]
      simp [Chain.glue, Chain.prepend]

/-! ## The pieces of a scan

A piece holds no connective outside quotes, which is to say that scanning it again gives it back,
and every piece but the last leaves no quote open: a connective is only met outside quotes. -/

/-- The chains that a scan with the quote `q` open can return: each piece scans to itself, and each
but the last leaves no quote open. -/
def IsScanned : (q : Option Char) → Chain Text → Prop
  | q, .last p => scan q p = .last p
  | q, .next p _ rest => scan q p = .last p ∧ quoteOver q p = none ∧ IsScanned none rest

/-- A piece with one more character in front is still uncut, when that character and the next of
the text write no connective. -/
lemma scan_cons_eq_last {q : Option Char} {c d : Char} {p t : Text}
    (hnone : connectiveAt? q c d = none) (hp : p <+: d :: t)
    (hscan : scan (quoteAfter q c) p = .last p) : scan q (c :: p) = .last (c :: p) := by
  cases p with
  | nil => rfl
  | cons e p =>
      obtain ⟨rfl, -⟩ := List.cons_prefix_cons.mp hp
      rw [scan, hnone, hscan]
      rfl

/-- **The pieces of a scan.** -/
theorem isScanned_scan (q : Option Char) (t : Text) : IsScanned q (scan q t) := by
  fun_induction scan q t with
  | case1 => rfl
  | case2 => rfl
  | case3 q c d cs k hk ih =>
      obtain ⟨rfl, -, -⟩ := connectiveAt?_eq_some_iff.mp hk
      exact ⟨rfl, rfl, ih⟩
  | case4 q c d cs hk ih =>
      have hprefix := (scan (quoteAfter q c) (d :: cs)).first_prefix_text
      rw [text_scan] at hprefix
      cases hK : scan (quoteAfter q c) (d :: cs) with
      | last p =>
          rw [hK] at ih hprefix
          exact scan_cons_eq_last hk hprefix ih
      | next p k rest =>
          rw [hK] at ih hprefix
          exact ⟨scan_cons_eq_last hk hprefix ih.1, ih.2.1, ih.2.2⟩

lemma IsScanned.scan_eq_last {K : Chain Text} (hK : IsScanned none K) {p : Text}
    (hp : p ∈ K.items) : scan none p = .last p := by
  induction K with
  | last p' =>
      rw [Chain.items, List.mem_singleton] at hp
      exact hp ▸ hK
  | next p' k rest ih =>
      rcases List.mem_cons.mp hp with rfl | hp
      · exact hK.1
      · exact ih hK.2.2 hp

lemma IsScanned.quoteOver_eq_none {K : Chain Text} (hK : IsScanned none K) {p : Text}
    (hp : p ∈ K.items.dropLast) : quoteOver none p = none := by
  induction K with
  | last p' => simp [Chain.items] at hp
  | next p' k rest ih =>
      rw [Chain.items, List.dropLast_cons_of_ne_nil rest.items_ne_nil] at hp
      rcases List.mem_cons.mp hp with rfl | hp
      · exact hK.2.1
      · exact ih hK.2.2 hp

end Expression

end BranchPolicy
