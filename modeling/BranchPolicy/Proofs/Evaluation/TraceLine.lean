import BranchPolicy.Proofs.Evaluation.EmptyBranch
import BranchPolicy.Proofs.Function.Signature

/-!
# A line of a trace identifies the overload that answered

A trace shows of an overload only the text of its signature, and the line of a report puts an arrow and the answer
behind it.  The names of functions are not restricted, so that signatures, arrows and answers can be part of a name.
All the same a line can be read in one way only, and in a registry one overload stands behind it.

* `CallAnswer.line_eq_iff` — a line determines the signature and the answer.
* `Dialect.answers_of_evaluate` — a trace has one line for each call, in order.
* `Registry.IsToldApart` — what signature texts tell about the overloads of a registry and the lines of its traces.
* **`Registry.text_identifies_overload`** — this for signatures, for lines and for every registry that can be built.
-/

namespace BranchPolicy

/-! ## Lines -/

/-- **A line determines the signature and the answer**: the last letters but one of the answers differ. -/
lemma CallAnswer.line_eq_iff {a a' : CallAnswer} :
    a.line = a'.line ↔ a.signature = a'.signature ∧ a.answer = a'.answer := by
  obtain ⟨signature, answer, call⟩ := a
  obtain ⟨signature', answer', call'⟩ := a'
  constructor
  · intro h
    have hanswer : answer = answer' := by
      have hreverse := congrArg (·.toList.reverse) h
      cases answer <;> cases answer' <;> simp [line] at hreverse ⊢
    subst hanswer
    have htext : signature.render = signature'.render := String.ofList_injective (by simpa [line] using h)
    exact ⟨Signature.render_injective htext, rfl⟩
  · rintro ⟨rfl, rfl⟩
    rfl

/-- The lines of the trace of a verdict are the answers of the calls, one for each call and in order. -/
lemma Dialect.answers_of_evaluate {d : Dialect} {expression branch : Option Text} {verdict : Bool}
    {trace : List CallAnswer} (h : d.evaluate expression branch = .ok (.decided verdict trace)) :
    List.Forall₂ (d.Answers (branch.getD [])) (Expression.calls (expression.getD [])) trace := by
  rw [evaluate] at h
  split at h
  · exact absurd h (by simp)
  · exact absurd h (by simp)
  · next plan hplan =>
      obtain ⟨-, hresolved⟩ := plan_eq_ok_iff.mp hplan
      obtain ⟨answers, hdispatched, houtcome⟩ := follow_eq_ok_iff.mp h
      obtain ⟨-, rfl⟩ := Evaluation.decided.inj houtcome
      have hanswered := (forall₂_dispatch_iff hresolved).mp hdispatched
      rw [Expression.calls, List.flatMap_def]
      exact List.rel_flatten ((List.forall₂_map_left_iff (f := Clause.calls)).mpr hanswered)

namespace Registry

/-! ## Overloads behind lines -/

/-- **Signature texts tell the overloads of a registry apart.**  No two overloads have one text, and overloads that
are looked up under any two names are the same if their texts are.  In every evaluation that comes to a verdict,
with any checks, each call has one line of the trace, and the signature text of the line is that of one overload of
the registry and no other: the one that the call resolved to, whose predicate gave the answer of the line. -/
structure IsToldApart (r : Registry) : Prop where
  distinct : (r.all.map (·.signature.render)).Nodup
  apart : ∀ name name', ∀ o ∈ r.overloads name, ∀ o' ∈ r.overloads name',
    o.signature.render = o'.signature.render → name = name' ∧ o = o'
  dispatched : ∀ d : Dialect, d.registry = r → ∀ expression branch verdict trace,
    d.evaluate expression branch = .ok (.decided verdict trace) →
    List.Forall₂ (fun call a => ∃ res, r.resolve call = .ok res ∧
        res.overload.predicate (branch.getD []) res.values = .ok a.answer ∧ a.call = call.source ∧
        r.withText a.signature.render = [res.overload])
      (Expression.calls (expression.getD [])) trace

variable {ds : List Declaration} {r : Registry}

lemma isToldApart_of_build (h : build ds = .ok r) : r.IsToldApart := by
  refine ⟨nodup_render_of_build h, fun name name' o ho o' ho' => eq_of_render_eq h ho ho', ?dispatched⟩
  rintro d rfl expression branch verdict trace hevaluate
  refine (Dialect.answers_of_evaluate hevaluate).imp fun call a hanswers => ?_
  obtain ⟨res, hres, -, hpredicate, hsignature, hcall⟩ := hanswers
  have hmem := mem_all_of_mem_overloads h (resolves_of_resolve hres).registered
  exact ⟨res, hres, hpredicate, hcall, hsignature ▸ withText_eq_singleton h hmem⟩

/-- **A line of a trace identifies its overload.**  Two signatures, of any names and any lists of kinds, have the same
text only if they have the same name and the same kinds.  Two lines are the same only if their signatures and
their answers are.  And in every registry that can be built, signature texts tell the overloads apart and name the
one that a call was dispatched to. -/
theorem text_identifies_overload :
    (∀ s s' : Signature, s.render = s'.render ↔ s.name = s'.name ∧ s.kinds = s'.kinds) ∧
    (∀ a a' : CallAnswer, a.line = a'.line ↔ a.signature = a'.signature ∧ a.answer = a'.answer) ∧
    ∀ ds r, build ds = .ok r → r.IsToldApart := by
  refine ⟨fun s s' => ?signatures, fun a a' => CallAnswer.line_eq_iff, fun ds r => isToldApart_of_build⟩
  case signatures =>
    obtain ⟨name, kinds⟩ := s
    obtain ⟨name', kinds'⟩ := s'
    rw [Signature.render_injective.eq_iff, Signature.mk.injEq]

/-- Functions with names that look like a signature, like the start of one, or like a list of kinds before a name. -/
def lookalikes : List Declaration :=
  [plainDeclaration "f" [.string, .number], plainDeclaration "f(string, number)" [],
    plainDeclaration "f(string" [.number], plainDeclaration "string, f" [.number], plainDeclaration "f" []]

/-- The lines of a trace of these functions. -/
def lookalikeTrace : List CallAnswer :=
  [⟨⟨"f".toList, [.string, .number]⟩, true, "f('a', 1)".toList⟩,
    ⟨⟨"string, f".toList, [.number]⟩, true, "string, f(1)".toList⟩,
    ⟨⟨"f".toList, []⟩, true, "f()".toList⟩]

/-- The look-alikes are told apart, and so are two signatures that have a parenthesis or a comma before the last kind. -/
theorem text_identifies_overload_lookalike :
    (⟨"f(string".toList, [.number]⟩ : Signature).render
      ≠ (⟨"f".toList, [.string, .number]⟩ : Signature).render ∧
    ∃ r, build lookalikes = .ok r ∧
      r.all.map (·.signature.render) = ["f(string, number)".toList, "f()".toList, "f(string, number)()".toList,
        "f(string(number)".toList, "string, f(number)".toList] ∧
      ({ registry := r } : Dialect).evaluate (some "f('a', 1) && string, f(1) || f()".toList) (some "main".toList)
        = .ok (.decided true lookalikeTrace) ∧
      r.IsToldApart ∧
      ∀ a ∈ lookalikeTrace, ∃ o, r.withText a.signature.render = [o] := by
  obtain ⟨hsignatures, -, hapart⟩ := text_identifies_overload
  obtain ⟨r, hr, htexts, hevaluate⟩ : ∃ r, build lookalikes = .ok r ∧
      r.all.map (·.signature.render) = ["f(string, number)".toList, "f()".toList, "f(string, number)()".toList,
        "f(string(number)".toList, "string, f(number)".toList] ∧
      ({ registry := r } : Dialect).evaluate (some "f('a', 1) && string, f(1) || f()".toList) (some "main".toList)
        = .ok (.decided true lookalikeTrace) :=
    ⟨_, rfl, by decide, by decide +kernel⟩
  refine ⟨fun h => absurd ((hsignatures _ _).mp h).1 (by decide), r, hr, htexts, hevaluate, hapart _ r hr, ?_⟩
  intro a ha
  have hdispatched := (hapart _ r hr).dispatched _ rfl _ _ _ _ hevaluate
  obtain ⟨call, -, res, -, -, -, honly⟩ := Traversal.exists_of_mem_right hdispatched ha
  exact ⟨res.overload, honly⟩

end Registry

end BranchPolicy
