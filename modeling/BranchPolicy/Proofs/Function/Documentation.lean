import BranchPolicy.Function.Documentation
import BranchPolicy.Proofs.Function.Registration

/-!
# The documentation leaves nothing out

The documentation of a registry shows its overloads twice, by function and by category.  A function can have
overloads of several categories and a category overloads of several functions, so that the two orders cross.
Neither of them loses an overload or shows one twice.

* `Entry.described`, `Overload.described_entry` — the entry of an overload tells its signature.
* `Registry.nodup_entries_of_build` — hence no two overloads of a registry that was built have one entry.
* `Registry.IsDocumentedBy` — what the documentation of a registry shows, key by key and as a whole.
* **`Registry.documentation_complete`** — the documentation of a registry that was built shows all of it.
-/

namespace BranchPolicy

open Grouping (get items keys)

/-! ## Entries -/

/-- The signature of the overload that an entry describes. -/
def Entry.described (e : Entry) : Signature where
  name := e.name
  kinds := e.parameters.map (·.kind)

lemma Overload.described_entry (o : Overload) : o.entry.described = o.signature := rfl

/-- Categories have different names. -/
lemma Category.name_injective : Function.Injective Category.name := by
  intro c c'
  cases c <;> cases c' <;> decide

namespace Registry

variable {ds : List Declaration} {r : Registry}

/-- No two overloads of a registry that was built have one signature. -/
lemma nodup_signatures_of_build (h : build ds = .ok r) : (r.all.map Overload.signature).Nodup := by
  obtain ⟨os, -, hdistinct, rfl⟩ := build_eq_ok_iff.mp h
  have hperm : (all ⟨Grouping.ofList (·.name) os⟩).Perm os := Grouping.perm_items_ofList _ os
  exact (hperm.map Overload.signature).nodup_iff.mpr hdistinct

/-- No two overloads of a registry that was built have one entry. -/
lemma nodup_entries_of_build (h : build ds = .ok r) : (r.all.map Overload.entry).Nodup := by
  have hdescribed : (r.all.map Overload.entry).map Entry.described = r.all.map Overload.signature := by
    rw [List.map_map]
    exact List.map_congr_left fun o _ => o.described_entry
  exact List.Nodup.of_map Entry.described (hdescribed ▸ nodup_signatures_of_build h)

/-- No name of a registry that was built comes twice. -/
lemma nodup_names_of_build (h : build ds = .ok r) : r.names.Nodup := by
  obtain ⟨os, -, -, rfl⟩ := build_eq_ok_iff.mp h
  exact Grouping.nodup_keys_ofList _ os

/-- What a function holds is part of all that a registry holds. -/
lemma mem_all_of_mem_overloads (h : build ds = .ok r) {name : Text} {o : Overload}
    (ho : o ∈ r.overloads name) : o ∈ r.all := by
  rw [all, Grouping.items_eq_flatMap_get (nodup_names_of_build h)]
  exact List.mem_flatMap.mpr ⟨name, mem_names_of_mem_overloads ho, ho⟩

/-! ## The two groupings -/

/-- **A documentation shows all of a registry.**  By function it has the names of the registry, in order, each
with the entries of its overloads, and these laid end to end are the entries of all overloads, in order.  By
category it has the categories that occur, in order of first occurrence, each with the entries of its overloads,
in order.  No two keys are written alike.  Each registered overload is shown exactly once by function and
exactly once by category, and the two groupings laid end to end are the same entries in another order. -/
structure IsDocumentedBy (r : Registry) (d : Documentation) : Prop where
  names : keys d.functions = r.names
  overloads : ∀ name, get name d.functions = (r.overloads name).map Overload.entry
  all : items d.functions = r.all.map Overload.entry
  categories : keys d.byCategory = (r.all.map (·.category)).eraseDups
  inCategory : ∀ category, get category d.byCategory = (r.inCategory category).map Overload.entry
  distinct : (keys d.functions).Nodup ∧ ((keys d.byCategory).map Category.name).Nodup
  once : ∀ name, ∀ o ∈ r.overloads name,
    (items d.functions).count o.entry = 1 ∧ (items d.byCategory).count o.entry = 1
  perm : (items d.functions).Perm (items d.byCategory)

/-- **The documentation of a registry that was built is complete.** -/
theorem documentation_complete (h : build ds = .ok r) : r.IsDocumentedBy r.documentation := by
  have hnames : keys r.documentation.functions = r.names := Grouping.keys_map_items _ _
  have hall : items r.documentation.functions = r.all.map Overload.entry := Grouping.items_map_items _ _
  have hperm : (items r.documentation.byCategory).Perm (r.all.map Overload.entry) :=
    Grouping.perm_items_ofList _ _
  refine ⟨hnames, fun name => Grouping.get_map_items _ _ name, hall, ?categories, fun category => ?inCategory,
    ⟨hnames ▸ nodup_names_of_build h, ?distinct⟩, fun name o ho => ?once, hall ▸ hperm.symm⟩
  case categories =>
    rw [documentation, Grouping.keys_ofList, List.map_map]
    rfl
  case inCategory =>
    rw [documentation, Grouping.get_ofList, List.filter_map, inCategory]
    congr 1
  case distinct =>
    exact (Grouping.nodup_keys_ofList _ _).map Category.name_injective
  case once =>
    have hmem : o.entry ∈ r.all.map Overload.entry :=
      List.mem_map_of_mem (mem_all_of_mem_overloads h ho)
    rw [hperm.count_eq, hall]
    exact ⟨List.count_eq_one_of_mem (nodup_entries_of_build h) hmem,
      List.count_eq_one_of_mem (nodup_entries_of_build h) hmem⟩

/-- Two functions and two categories that cross: the overloads of `f` are of both categories, and those of each
category are of two functions. -/
def crossing : List Declaration :=
  [{ plainDeclaration "f" [.string] with category := .search }, plainDeclaration "g" [],
    { plainDeclaration "h" [] with category := .search }, plainDeclaration "f" [.number]]

/-- The second overload of `f` is shown before `g` by function and in the category of `g` as well, which comes
second because of it. -/
theorem documentation_complete_crossing :
    ∃ r, build crossing = .ok r ∧
      (items r.documentation.functions).map Entry.described
        = [⟨"f".toList, [.string]⟩, ⟨"f".toList, [.number]⟩, ⟨"g".toList, []⟩, ⟨"h".toList, []⟩] ∧
      (items r.documentation.byCategory).map Entry.described
        = [⟨"f".toList, [.string]⟩, ⟨"h".toList, []⟩, ⟨"f".toList, [.number]⟩, ⟨"g".toList, []⟩] ∧
      r.IsDocumentedBy r.documentation := by
  obtain ⟨r, hr, hfunctions, hcategories⟩ : ∃ r, build crossing = .ok r ∧
      (items r.documentation.functions).map Entry.described
        = [⟨"f".toList, [.string]⟩, ⟨"f".toList, [.number]⟩, ⟨"g".toList, []⟩, ⟨"h".toList, []⟩] ∧
      (items r.documentation.byCategory).map Entry.described
        = [⟨"f".toList, [.string]⟩, ⟨"h".toList, []⟩, ⟨"f".toList, [.number]⟩, ⟨"g".toList, []⟩] :=
    ⟨_, rfl, rfl, rfl⟩
  exact ⟨r, hr, hfunctions, hcategories, documentation_complete hr⟩

end Registry

end BranchPolicy
