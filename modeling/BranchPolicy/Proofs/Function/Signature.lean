import BranchPolicy.Proofs.Expression.Printing
import BranchPolicy.Proofs.Function.Documentation

/-!
# The text of a signature determines the signature

A signature is written as a name and, in parentheses, the words for its kinds.  Any text can be the name, and nothing
marks where it ends: a name can hold parentheses, commas and the words for kinds, and so look like a whole signature.
But no word holds a parenthesis, so that the last opening one of the text is the one after the name.

* `kindsText_injective` — lists of kinds are told apart by their words, as these can be cut at the commas again.
* `eq_of_append_parenthesis` — the last opening parenthesis divides a text in one way only.
* **`Signature.render_injective`** — hence no two signatures have one text.
* `Registry.nodup_render_of_build` — nor do two overloads of a registry that was built, under whatever names.
* `Registry.withText`, `Registry.withText_eq_singleton` — the look-up of an overload by the text of its signature.
-/

namespace BranchPolicy

/-! ## Kinds -/

lemma Kind.word_injective : Function.Injective Kind.word := by
  intro kind kind'
  cases kind <;> cases kind' <;> decide

/-- The words for kinds, as a signature lists them. -/
def kindsText (kinds : List Kind) : Text :=
  ", ".toList.intercalate (kinds.map Kind.word)

/-- Cut at its commas, the list gives the words again, as that of a call would whose arguments are these words. -/
lemma argumentTexts_kindsText (kinds : List Kind) :
    Call.argumentTexts (kindsText kinds) = kinds.map Kind.word := by
  have hprintable : ∀ a ∈ kinds.map fun kind => Argument.number kind.word, a.IsPrintable := by
    intro a ha
    obtain ⟨kind, -, rfl⟩ := List.mem_map.mp ha
    cases kind <;> decide
  have hlone : (kinds.map fun kind => Argument.number kind.word) ≠ [.number []] := by
    intro h
    obtain ⟨kind, -, hempty⟩ := List.map_eq_singleton_iff.mp h
    cases kind <;> exact absurd hempty (by decide)
  have htexts := argumentTexts_render hprintable hlone
  rw [List.map_map] at htexts
  exact htexts

/-- **Lists of kinds are told apart** by their words, the empty list from all others as well. -/
lemma kindsText_injective : Function.Injective kindsText := by
  intro kinds kinds' h
  refine List.map_injective_iff.mpr Kind.word_injective ?_
  rw [← argumentTexts_kindsText, h, argumentTexts_kindsText]

lemma not_mem_kindsText (kinds : List Kind) : '(' ∉ kindsText kinds := by
  have hword : ∀ kind : Kind, '(' ∉ kind.word := by
    intro kind
    cases kind <;> decide
  induction kinds with
  | nil => exact List.not_mem_nil
  | cons kind kinds ih =>
      cases kinds with
      | nil => simpa [kindsText] using hword kind
      | cons kind' kinds =>
          have hstep : kindsText (kind :: kind' :: kinds)
              = kind.word ++ (", ".toList ++ kindsText (kind' :: kinds)) := by
            rw [kindsText, List.map_cons, List.map_cons, List.intercalate_cons_cons, List.append_assoc]
            rfl
          have hseparator : '(' ∉ ", ".toList := by decide
          rw [hstep, List.mem_append, List.mem_append, not_or, not_or]
          exact ⟨hword kind, hseparator, ih⟩

/-! ## Signatures -/

/-- **A text is divided at its last opening parenthesis** in one way only. -/
lemma eq_of_append_parenthesis {x x' a a' : Text} (ha : '(' ∉ a) (ha' : '(' ∉ a')
    (h : x ++ '(' :: a = x' ++ '(' :: a') : x = x' ∧ a = a' := by
  -- read from its end, the text comes to that parenthesis first
  have hreverse : a.reverse ++ '(' :: x.reverse = a'.reverse ++ '(' :: x'.reverse := by
    simpa using congrArg List.reverse h
  rw [← List.mem_reverse] at ha ha'
  have hlist := takeWhile_call ha x.reverse
  have hname := dropWhile_call ha x.reverse
  rw [hreverse, takeWhile_call ha'] at hlist
  rw [hreverse, dropWhile_call ha'] at hname
  obtain ⟨-, hname⟩ := List.cons.inj hname
  exact ⟨List.reverse_injective hname.symm, List.reverse_injective hlist.symm⟩

/-- **No two signatures have one text**, whatever their names look like. -/
theorem Signature.render_injective : Function.Injective Signature.render := by
  rintro ⟨name, kinds⟩ ⟨name', kinds'⟩ h
  have hfree : ∀ kinds, '(' ∉ kindsText kinds ++ [')'] := by
    intro kinds
    simp [not_mem_kindsText kinds]
  obtain ⟨rfl, hlist⟩ := eq_of_append_parenthesis (hfree kinds) (hfree kinds') h
  rw [kindsText_injective (List.append_cancel_right hlist)]

/-! ## Overloads -/

namespace Registry

variable {ds : List Declaration} {r : Registry}

/-- **No two overloads of a registry that was built have one signature text**, of one function or of two. -/
lemma nodup_render_of_build (h : build ds = .ok r) : (r.all.map (·.signature.render)).Nodup := by
  have hnodup := (nodup_signatures_of_build h).map Signature.render_injective
  rw [List.map_map] at hnodup
  exact hnodup

/-- The overloads of a registry whose signature has a given text. -/
def withText (r : Registry) (t : Text) : List Overload :=
  r.all.filter (·.signature.render == t)

/-- An overload of a registry that was built is the only one with the text of its signature. -/
lemma withText_eq_singleton (h : build ds = .ok r) {o : Overload} (ho : o ∈ r.all) :
    r.withText o.signature.render = [o] := by
  have hnodup := nodup_render_of_build h
  refine filter_eq_singleton_of_unique hnodup.of_map ho (beq_self_eq_true _) fun o' ho' hsame => ?_
  exact List.inj_on_of_nodup_map hnodup ho' ho (beq_iff_eq.mp hsame)

/-- Overloads with one signature text are one overload, and are found under one name. -/
lemma eq_of_render_eq (h : build ds = .ok r) {name name' : Text} {o o' : Overload}
    (ho : o ∈ r.overloads name) (ho' : o' ∈ r.overloads name')
    (hsame : o.signature.render = o'.signature.render) : name = name' ∧ o = o' := by
  obtain rfl : o = o' := List.inj_on_of_nodup_map (nodup_render_of_build h)
    (mem_all_of_mem_overloads h ho) (mem_all_of_mem_overloads h ho') hsame
  obtain ⟨hname, -⟩ := isFiled_of_build h name o ho
  obtain ⟨hname', -⟩ := isFiled_of_build h name' o ho'
  exact ⟨hname.symm.trans hname', rfl⟩

end Registry

end BranchPolicy
