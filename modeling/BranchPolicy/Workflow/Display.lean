import BranchPolicy.Text.ControlSequence

/-!
# How a stream shows a text

A terminal shows a text as it is, and can set it off by a colour. What is written to a file or a
pipe is spared the control sequences that a terminal would obey. Which of them are recognised is a
matter of the stream; all that is relied on is that nothing else is left out.

* `Style` — how a text can be set off.
* `Display` — how a stream shows a text, and what is relied on of it.
* `Display.styled` — a text in a style, as a stream shows it.
* `Display.terminal`, `Display.piped` — a terminal with colours, and a stream that is no terminal.
-/

namespace BranchPolicy

/-- How a text can be set off from others. -/
inductive Style where
  | red
  | green
  | bold
  deriving DecidableEq, Repr

/-- **How a stream shows a text**, and what a text in a style stands between. -/
structure Display where
  isTerminal : Bool := true
  shown : Text → Text := id
  opening : Style → Text := fun _ => []
  closing : Text := []
  /-- A terminal shows every text as it is. -/
  shown_terminal : isTerminal = true → ∀ t, shown t = t := by intros; rfl
  /-- No stream leaves out anything but control sequences. -/
  strips : ∀ t, Text.Strips t (shown t) := by exact Text.strips_self
  /-- A stream that is no terminal sets off no text. -/
  opening_eq_nil : isTerminal = false → ∀ s, opening s = [] := by simp
  closing_eq_nil : isTerminal = false → closing = [] := by simp

namespace Display

/-- A text in a style, as a stream shows it. -/
def styled (d : Display) (s : Style) (t : Text) : Text :=
  d.opening s ++ d.shown t ++ d.closing

/-- A stream that is no terminal shows a text in a style like any other text. -/
theorem styled_eq_shown {d : Display} (h : d.isTerminal = false) (s : Style) (t : Text) :
    d.styled s t = d.shown t := by
  rw [styled, d.opening_eq_nil h, d.closing_eq_nil h, List.nil_append, List.append_nil]

/-- A terminal that obeys the control sequences for colours. -/
def terminal : Display where
  opening
    | .red => "\x1b[31m".toList
    | .green => "\x1b[32m".toList
    | .bold => "\x1b[1m".toList
  closing := "\x1b[0m".toList

/-- A stream that is no terminal. -/
def piped : Display where
  isTerminal := false
  shown := Text.visible
  shown_terminal := by simp
  strips := Text.strips_visible

end Display

end BranchPolicy
