/-!
# Groupings

A grouping collects items under keys. The keys keep the order in which they first came, and the
items of a key the order in which they came.

* `Grouping` — the groups, in order.
* `Grouping.add` — puts an item at the end of the group of its key.
* `Grouping.get` — the items of a key.
* `Grouping.keys`, `Grouping.items` — all keys, and all items group by group.

A grouping is seen through `get` and `keys`: `get_add` and `keys_add` say what adding an item does
to each, and `get_ofList` and `mem_keys_ofList` what the items of a key and the keys are in the
end.
-/

namespace BranchPolicy

/-- Keys in order of first appearance, each with its items in order. -/
abbrev Grouping (κ α : Type) := List (κ × List α)

namespace Grouping

variable {κ α : Type} [DecidableEq κ]

/-- Puts an item at the end of the group of its key, or into a new last group. -/
def add (key : κ) (item : α) : Grouping κ α → Grouping κ α
  | [] => [(key, [item])]
  | (k, items) :: groups =>
    if k = key then (k, items ++ [item]) :: groups else (k, items) :: add key item groups

/-- The items of a key, none if the key never came. -/
def get (key : κ) : Grouping κ α → List α
  | [] => []
  | (k, items) :: groups => if k = key then items else get key groups

/-- The keys, in order. -/
def keys (g : Grouping κ α) : List κ :=
  g.map (·.1)

/-- All items, group by group. -/
def items (g : Grouping κ α) : List α :=
  g.flatMap (·.2)

/-- Groups items by a key. -/
def ofList (key : α → κ) (items : List α) : Grouping κ α :=
  items.foldl (fun g item => add (key item) item g) []

/-! ## What adding an item does -/

@[simp] theorem get_nil (key : κ) : get key ([] : Grouping κ α) = [] := rfl

/-- An added item comes last among the items of its key and changes no other key. -/
theorem get_add (key k : κ) (item : α) (g : Grouping κ α) :
    get k (add key item g) = if key = k then get k g ++ [item] else get k g := by
  induction g with
  | nil => by_cases h : key = k <;> simp [add, get, h]
  | cons group groups ih =>
    obtain ⟨k', items⟩ := group
    by_cases h₁ : k' = key
    · subst h₁
      by_cases h₂ : k' = k <;> simp [add, get, h₂]
    · by_cases h₂ : k' = k
      · subst h₂
        simp [add, get, h₁, Ne.symm h₁]
      · simp [add, get, h₁, h₂, ih]

/-- An added item brings its key, at the end, unless the key is there. -/
theorem keys_add (key : κ) (item : α) (g : Grouping κ α) :
    keys (add key item g) = if key ∈ keys g then keys g else keys g ++ [key] := by
  induction g with
  | nil => simp [add, keys]
  | cons group groups ih =>
    obtain ⟨k', items⟩ := group
    by_cases h : k' = key
    · simp [add, keys, h]
    · simp only [keys, List.map_cons, add, if_neg h, List.mem_cons, Ne.symm h, false_or] at ih ⊢
      rw [ih]
      by_cases hmem : key ∈ groups.map (·.1) <;> simp [hmem]

theorem mem_keys_foldl_add (key : α → κ) {k : κ} (items : List α) (g : Grouping κ α) :
    k ∈ keys (items.foldl (fun g item => add (key item) item g) g)
      ↔ k ∈ keys g ∨ ∃ item ∈ items, key item = k := by
  induction items generalizing g with
  | nil => simp
  | cons item items ih =>
    rw [List.foldl_cons, ih, keys_add]
    split <;> grind

/-- The keys are those of the items. -/
theorem mem_keys_ofList (key : α → κ) {k : κ} (items : List α) :
    k ∈ keys (ofList key items) ↔ ∃ item ∈ items, key item = k := by
  rw [ofList, mem_keys_foldl_add]
  simp [keys]

theorem get_foldl_add (key : α → κ) (k : κ) (items : List α) (g : Grouping κ α) :
    get k (items.foldl (fun g item => add (key item) item g) g)
      = get k g ++ items.filter (key · = k) := by
  induction items generalizing g with
  | nil => simp
  | cons item items ih =>
    rw [List.foldl_cons, ih, get_add]
    by_cases h : key item = k <;> simp [h]

/-- The items of a key are those that were grouped under it, in order. -/
theorem get_ofList (key : α → κ) (k : κ) (items : List α) :
    get k (ofList key items) = items.filter (key · = k) := by
  rw [ofList, get_foldl_add, get_nil, List.nil_append]

end Grouping

end BranchPolicy
