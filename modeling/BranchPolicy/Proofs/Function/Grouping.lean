import BranchPolicy.Function.Grouping
import Mathlib.Data.List.Induction
import Mathlib.Data.List.Nodup
import Mathlib.Data.List.Perm.Basic
import Mathlib.Tactic.Common

/-!
# Grouping loses nothing

Items that are grouped one after the other only ever change places.  The keys are those of the items, each
where it first came, and the groups laid end to end are the items in another order.

* `ofList_concat` — one more item.
* **`keys_ofList`** — the keys, each once and in order of first appearance.
* `items_eq_flatMap_get` — the groups laid end to end, key by key.
* **`perm_items_ofList`** — they are the items that were grouped, in another order.
* `keys_map_items`, `get_map_items`, `items_map_items` — the same groups of other items.
-/

namespace BranchPolicy.Grouping

variable {κ α : Type}

lemma keys_cons (k : κ) (held : List α) (g : Grouping κ α) : keys ((k, held) :: g) = k :: keys g := rfl

lemma items_cons (k : κ) (held : List α) (g : Grouping κ α) :
    items ((k, held) :: g) = held ++ items g :=
  List.flatMap_cons

section Distinct

variable [BEq κ] [LawfulBEq κ] {ks : List κ} {k : κ}

lemma eraseDups_concat_of_mem (h : k ∈ ks) :
    (ks ++ [k]).eraseDups = ks.eraseDups := by
  simp [List.eraseDups_append, List.removeAll, h]

lemma eraseDups_concat_of_not_mem (h : k ∉ ks) :
    (ks ++ [k]).eraseDups = ks.eraseDups ++ [k] := by
  simp [List.eraseDups_append, List.removeAll, List.eraseDups_cons, h]

end Distinct

variable [DecidableEq κ]

lemma ofList_concat (key : α → κ) (items : List α) (item : α) :
    ofList key (items ++ [item]) = add (key item) item (ofList key items) := by
  rw [ofList, List.foldl_concat, ofList]

/-! ## The keys -/

lemma nodup_keys_add {key : κ} {item : α} {g : Grouping κ α} (h : (keys g).Nodup) :
    (keys (add key item g)).Nodup := by
  rw [keys_add]
  split
  · exact h
  · next hnew =>
      rw [List.nodup_append_comm]
      exact List.nodup_cons.mpr ⟨hnew, h⟩

/-- No key comes twice. -/
lemma nodup_keys_ofList (key : α → κ) (items : List α) : (keys (ofList key items)).Nodup := by
  induction items using List.reverseRecOn with
  | nil => exact List.nodup_nil
  | append_singleton items item ih =>
      rw [ofList_concat]
      exact nodup_keys_add ih

/-- **The keys are those of the items**, each once and in order of first appearance. -/
theorem keys_ofList [BEq κ] [LawfulBEq κ] (key : α → κ) (items : List α) :
    keys (ofList key items) = (items.map key).eraseDups := by
  induction items using List.reverseRecOn with
  | nil => rfl
  | append_singleton items item ih =>
      rw [ofList_concat, keys_add, ih, List.map_append, List.map_singleton]
      split
      · next hknown => rw [eraseDups_concat_of_mem (List.mem_eraseDups.mp hknown)]
      · next hnew => rw [eraseDups_concat_of_not_mem (mt List.mem_eraseDups.mpr hnew)]

/-! ## The items -/

/-- The groups laid end to end are what the keys hold, one key after the other. -/
lemma items_eq_flatMap_get {g : Grouping κ α} (h : (keys g).Nodup) :
    items g = (keys g).flatMap fun key => get key g := by
  induction g with
  | nil => rfl
  | cons group groups ih =>
      obtain ⟨k, held⟩ := group
      rw [keys_cons, List.nodup_cons] at h
      obtain ⟨hnew, hrest⟩ := h
      have hget : ∀ key ∈ keys groups, get key ((k, held) :: groups) = get key groups := by
        intro key hkey
        rw [get, if_neg]
        rintro rfl
        exact hnew hkey
      have hheld : get k ((k, held) :: groups) = held := if_pos rfl
      rw [items_cons, keys_cons, List.flatMap_cons, hheld, List.flatMap_congr hget, ih hrest]

lemma perm_items_add (key : κ) (item : α) (g : Grouping κ α) :
    (items (add key item g)).Perm (items g ++ [item]) := by
  induction g with
  | nil => exact List.Perm.refl _
  | cons group groups ih =>
      obtain ⟨k, held⟩ := group
      rw [add]
      split
      · rw [items_cons, items_cons, List.append_assoc, List.append_assoc]
        exact List.perm_append_comm.append_left held
      · rw [items_cons, items_cons, List.append_assoc]
        exact ih.append_left held

/-- **No item is lost and none comes twice.** -/
theorem perm_items_ofList (key : α → κ) (is : List α) : (items (ofList key is)).Perm is := by
  induction is using List.reverseRecOn with
  | nil => exact List.Perm.refl _
  | append_singleton is item ih =>
      rw [ofList_concat]
      exact (perm_items_add _ _ _).trans (ih.append_right [item])

/-! ## Other items in the same groups -/

section Map

variable {β : Type} (f : α → β) (g : Grouping κ α)

omit [DecidableEq κ] in
lemma keys_map_items : keys (g.map fun (k, held) => (k, held.map f)) = keys g := by
  simp [keys, Function.comp_def]

lemma get_map_items (key : κ) :
    get key (g.map fun (k, held) => (k, held.map f)) = (get key g).map f := by
  induction g with
  | nil => rfl
  | cons group groups ih =>
      obtain ⟨k, held⟩ := group
      rw [List.map_cons, get, get]
      split
      · rfl
      · exact ih

omit [DecidableEq κ] in
lemma items_map_items : items (g.map fun (k, held) => (k, held.map f)) = (items g).map f := by
  rw [items, items, List.flatMap_map, List.map_flatMap]

end Map

end BranchPolicy.Grouping
