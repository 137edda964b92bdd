import BranchPolicy.Proofs.Expression.Call

/-!
# A printed call is read back

A call that was not read from a text is printed as its name and its arguments, strings in single quotes and
nothing escaped.  What can stand in the arguments is bounded by the reader: it cuts at the commas outside
quotes, trims what it finds and tells a string by its two ends.

* `Argument.IsPrintable`, `Call.IsPrintable` — the arguments and the calls that printing keeps apart.
* `Argument.IsPrintable.ofText_render` — the text of an argument is read as that argument.
* `intercalate_space` — the space after a comma can be counted to the argument after it.
* `argumentTexts_render` — cutting the printed list gives the texts of the arguments, unless the list looks empty.
* **`Call.parse_render_iff`** — reading a printed call gives the call back, with one exception.
-/

namespace BranchPolicy

open Text (isBlank isQuote singleQuote quoteOver freeOutside unquotedPieces)

/-! ## Arguments -/

/-- **Arguments that printing keeps apart**: a string without single quotes, which may hold anything else, or a
trimmed text without commas and quotes, which may be empty. -/
def Argument.IsPrintable : Argument → Prop
  | .string content => singleQuote ∉ content
  | .number text => text.trim = text ∧ ∀ c ∈ text, isQuote c = false ∧ c ≠ ','

instance : DecidablePred Argument.IsPrintable
  | .string content => inferInstanceAs (Decidable (singleQuote ∉ content))
  | .number text =>
    @instDecidableAnd _ _ (inferInstanceAs (Decidable (text.trim = text))) (List.decidableBAll _ text)

namespace Argument

lemma render_string (content : Text) :
    (string content).render = singleQuote :: (content ++ [singleQuote]) := rfl

lemma render_eq_nil_iff {a : Argument} : a.render = [] ↔ a = .number [] := by
  cases a <;> simp [render]

namespace IsPrintable

variable {a : Argument}

/-- A printed argument leaves no quote open. -/
lemma quoteOver_render (ha : a.IsPrintable) : quoteOver none a.render = none := by
  cases a with
  | string content => exact Text.quoteOver_quoted (by decide) ha
  | number text => exact Text.quoteOver_of_not_quote Text.isQuoteState_none fun c hc => (ha.2 c hc).1

/-- A printed argument has no comma outside quotes. -/
lemma freeOutside_render (ha : a.IsPrintable) : freeOutside (· == ',') none a.render = true := by
  cases a with
  | string content => exact Text.freeOutside_quoted (by decide) (by decide) ha
  | number text => exact Text.freeOutside_of_forall fun c hc => beq_false_of_ne (ha.2 c hc).2

/-- A printed argument is trimmed: the blanks of a string stand between its quotes. -/
lemma trim_render (ha : a.IsPrintable) : a.render.trim = a.render := by
  cases a with
  | number text => exact ha.1
  | string content =>
      rw [render_string]
      refine Text.trim_eq_self (fun c hc => ?_) fun c hc => ?_
      · obtain rfl := Option.some.inj hc
        decide
      · rw [← List.cons_append, List.getLast?_concat] at hc
        obtain rfl := Option.some.inj hc
        decide

/-- **A printed argument is read as what it is.** -/
lemma ofText_render (ha : a.IsPrintable) : ofText a.render = a := by
  cases a with
  | string content => exact ofText_quoted (by decide) content
  | number text =>
      cases text with
      | nil => rfl
      | cons c text => simp [render, ofText, (ha.2 c List.mem_cons_self).1]

end IsPrintable

end Argument

/-! ## Lists -/

/-- A space at the start of each text but the first can be part of the separator. -/
lemma intercalate_space (t : Text) (ts : List Text) :
    [','].intercalate (t :: ts.map (' ' :: ·)) = ", ".toList.intercalate (t :: ts) := by
  have hseparator : ", ".toList = [',', ' '] := rfl
  induction ts generalizing t with
  | nil => simp
  | cons u ts ih =>
      have hhead : ∀ rest : List Text,
          [','].intercalate ((' ' :: u) :: rest) = ' ' :: [','].intercalate (u :: rest) := by
        intro rest
        cases rest <;> simp
      rw [List.map_cons, List.intercalate_cons_cons, hhead, ih, List.intercalate_cons_cons, hseparator]
      simp

section List

variable {as : List Argument}

/-- Cutting a printed list at its commas and trimming the pieces gives the texts of the arguments. -/
lemma map_trim_unquotedPieces_render (has : ∀ a ∈ as, a.IsPrintable) (hne : as ≠ []) :
    (unquotedPieces [','] (", ".toList.intercalate (as.map (·.render)))).map Text.trim
      = as.map (·.render) := by
  obtain ⟨a, as, rfl⟩ := List.exists_cons_of_ne_nil hne
  obtain ⟨ha, has⟩ := List.forall_mem_cons.mp has
  have hspace : isBlank [' '] = true := by decide
  rw [List.map_cons, ← intercalate_space, Text.unquotedPieces_intercalate (by decide) (by simp) ?free ?closed]
  case free =>
    simp only [List.forall_mem_cons, List.forall_mem_map]
    exact ⟨ha.freeOutside_render, fun b hb => (has b hb).freeOutside_render⟩
  case closed =>
    simp only [List.forall_mem_cons, List.forall_mem_map]
    exact ⟨ha.quoteOver_render, fun b hb => (has b hb).quoteOver_render⟩
  rw [List.map_cons, ha.trim_render, List.map_map, List.map_map]
  refine congrArg _ (List.map_congr_left fun b hb => ?_)
  exact (Text.trim_append_left hspace b.render).trans (has b hb).trim_render

/-- **The texts of printed arguments are found again**, unless the only one is empty. -/
theorem argumentTexts_render (has : ∀ a ∈ as, a.IsPrintable) (hlone : as ≠ [.number []]) :
    Call.argumentTexts (", ".toList.intercalate (as.map (·.render))) = as.map (·.render) := by
  rw [Call.argumentTexts]
  split
  · next hblank =>
      by_contra hne
      have hnil : as ≠ [] := by
        rintro rfl
        exact hne rfl
      -- a blank list would be a single piece that trimming leaves empty
      have htexts := map_trim_unquotedPieces_render has hnil
      rw [Text.unquotedPieces_of_free (Text.freeOutside_of_isBlank (by decide) hblank), List.map_singleton,
        Text.trim_eq_nil_iff.mpr hblank] at htexts
      obtain ⟨a, rfl, ha⟩ := List.map_eq_singleton_iff.mp htexts.symm
      exact hlone (congrArg (fun a => [a]) (Argument.render_eq_nil_iff.mp ha))
  · next hblank =>
      refine map_trim_unquotedPieces_render has ?_
      rintro rfl
      exact hblank rfl

end List

/-! ## Calls -/

namespace Call

/-- **Calls that can be printed**: they were not read from a text, the name is trimmed and has no opening
parenthesis, and the arguments are kept apart. -/
structure IsPrintable (c : Call) : Prop where
  unread : c.source = []
  name_trim : c.name.trim = c.name
  name_free : '(' ∉ c.name
  arguments : ∀ a ∈ c.arguments, a.IsPrintable

instance (c : Call) : Decidable c.IsPrintable :=
  decidable_of_iff (c.source = [] ∧ c.name.trim = c.name ∧ '(' ∉ c.name ∧ ∀ a ∈ c.arguments, a.IsPrintable)
    ⟨fun ⟨hunread, htrim, hfree, harguments⟩ => ⟨hunread, htrim, hfree, harguments⟩,
      fun hc => ⟨hc.unread, hc.name_trim, hc.name_free, hc.arguments⟩⟩

section

variable {c : Call}

lemma IsPrintable.render_eq (hc : c.IsPrintable) :
    c.render = c.name ++ '(' :: (", ".toList.intercalate (c.arguments.map (·.render)) ++ [')']) := by
  rw [render, hc.unread, if_pos List.isEmpty_nil]
  simp

/-- A printed call starts with its name or a parenthesis and ends with a parenthesis. -/
lemma IsPrintable.trim_render (hc : c.IsPrintable) : c.render.trim = c.render := by
  rw [hc.render_eq]
  refine Text.trim_eq_self (fun d hd => ?_) fun d hd => ?_
  · cases hname : c.name with
    | nil =>
        rw [hname] at hd
        obtain rfl := Option.some.inj hd
        decide
    | cons e name =>
        rw [hname] at hd
        have htrimmed := hc.name_trim
        refine Text.not_blank_of_head?_trim (t := c.name) ?_
        rw [htrimmed, hname]
        exact hd
  · rw [getLast?_call] at hd
    obtain rfl := Option.some.inj hd
    decide

/-- Reading a printed call gives its name, the arguments that the reader finds in its list, and the text. -/
lemma IsPrintable.parse_render_eq (hc : c.IsPrintable) :
    parse c.render = { name := c.name
                       arguments := (argumentTexts
                         (", ".toList.intercalate (c.arguments.map (·.render)))).map Argument.ofText
                       source := c.render } := by
  have hname : nameOf c.render = c.name := by
    rw [hc.render_eq, nameOf_call hc.name_free, hc.name_trim]
  have hlist : argumentList c.render = ", ".toList.intercalate (c.arguments.map (·.render)) := by
    rw [hc.render_eq, argumentList_call hc.name_free]
  rw [parse, hc.trim_render, hname, hlist]

/-- **A printed call is read back.**  For a call that can be printed, reading its text gives the same name, the
same arguments in the same order and the text itself as the source, unless its only argument is a number with
an empty text, which looks like no argument at all. -/
theorem parse_render_iff (hc : c.IsPrintable) :
    parse c.render = { c with source := c.render } ↔ c.arguments ≠ [.number []] := by
  rw [hc.parse_render_eq]
  constructor
  · intro h hlone
    have harguments := congrArg Call.arguments h
    simp only [hlone] at harguments
    exact absurd harguments (by decide)
  · intro hlone
    have hread : (c.arguments.map (·.render)).map Argument.ofText = c.arguments := by
      rw [List.map_map]
      exact (List.map_congr_left fun a ha => (hc.arguments a ha).ofText_render).trans (List.map_id _)
    rw [argumentTexts_render hc.arguments hlone, hread]

end

/-- A call with everything that its arguments may hold: quotes of the other style, commas, parentheses,
connectives and blanks in a string, an empty string, a parenthesis in a number and an empty number. -/
def crowded : Call where
  name := "is)Full".toList
  arguments := [.string " \"a, b\") && f( ".toList, .number ")8(".toList, .string [], .number []]

/-- The crowded call is read back from its text. -/
theorem parse_render_iff_crowded :
    crowded.render = "is)Full(' \"a, b\") && f( ', )8(, '', )".toList ∧
      parse crowded.render = { crowded with source := crowded.render } :=
  ⟨by decide, (parse_render_iff (by decide)).mpr (by decide)⟩

end Call

end BranchPolicy
