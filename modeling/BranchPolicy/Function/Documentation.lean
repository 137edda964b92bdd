import BranchPolicy.Function.Registry
import BranchPolicy.Json

/-!
# The documentation of a registry

The overloads of a registry in two groupings: by function, and by category in order of first
appearance.

* `Entry` — what the documentation says about an overload.
* `Documentation` — the two groupings.
* `Registry.documentation` — those of a registry.
* `Documentation.toJson` — both groupings as one document.
-/

namespace BranchPolicy

/-- What the documentation says about an overload. -/
structure Entry where
  name : Text
  signature : Text
  description : String
  category : Category
  parameters : List Parameter
  examples : List String
  deriving DecidableEq, Repr

/-- The entry of an overload. -/
def Overload.entry (o : Overload) : Entry where
  name := o.name
  signature := o.heading
  description := o.description
  category := o.category
  parameters := o.parameters
  examples := o.examples

/-- Every entry by function and by category. -/
structure Documentation where
  functions : Grouping Text Entry
  byCategory : Grouping Category Entry

/-- **The documentation of a registry.** -/
def Registry.documentation (r : Registry) : Documentation where
  functions := r.functions.map fun (name, overloads) => (name, overloads.map (·.entry))
  byCategory := Grouping.ofList (·.category) (r.all.map (·.entry))

/-! ## As documents -/

/-- A parameter as a document. -/
def Parameter.toJson (p : Parameter) : Json :=
  .object
    [("name".toList, .text p.name), ("type".toList, .text p.kind.word),
     ("description".toList, .text p.description.toList)]

/-- An entry as a document. -/
def Entry.toJson (e : Entry) : Json :=
  .object
    [("name".toList, .text e.name), ("signature".toList, .text e.signature),
     ("description".toList, .text e.description.toList),
     ("category".toList, .text e.category.name.toList),
     ("parameters".toList, .list (e.parameters.map (·.toJson))),
     ("returnType".toList, .text "bool".toList),
     ("examples".toList, .list (e.examples.map (.text ·.toList)))]

/-- A grouping of entries as an object, its keys written by `name`. -/
def entriesJson {κ : Type} (name : κ → Text) (groups : Grouping κ Entry) : Json :=
  .object (groups.map fun (key, entries) => (name key, .list (entries.map (·.toJson))))

/-- The documentation as a document. -/
def Documentation.toJson (d : Documentation) : Json :=
  .object
    [("functions".toList, entriesJson id d.functions),
     ("byCategory".toList, entriesJson (·.name.toList) d.byCategory)]

end BranchPolicy
