import BranchPolicy.Proofs.Expression.Extraction

/-!
# Extraction as one pass over the text

`Expression.clauses` reads a text twice: it cuts at `||` and then cuts each piece at `&&`, with the quote
state restarted for every piece.  A tokenizer that reads the text once, from the left, and ends calls and
clauses as it meets the connectives, finds the same clauses in every text.

* `Tokenizer` — what has been read: the open quote, the piece, the calls of the clause, the clauses.
* `Tokenizer.read` — reading a text; `Tokenizer.tokenize` — the clauses of an expression.
* `Tokenizer.clausesAfter` — the clauses that a tokenizer ends with, told from the pieces that it is
  going to read.
* `clausesAfter_endCall`, `clausesAfter_endClause` — what the two connectives do to it.
* `clauses_endClause_read` — a whole text does to it what its one-pass scan says.
* **`clauses_eq_tokenize`** — two passes find what one pass finds.
-/

namespace BranchPolicy

open Expression (connectiveAt? connectiveAt?_eq_some_iff scan)

/-! ## The tokenizer -/

/-- What a tokenizer has read: the quote that is open, the piece that it is in, the calls of the clause
that it is in, and the clauses that have ended. -/
structure Tokenizer where
  openQuote : Option Char := none
  piece : Text := []
  calls : List Call := []
  clauses : List Clause := []

namespace Tokenizer

/-- Reads a character that is part of no connective. -/
def push (s : Tokenizer) (c : Char) : Tokenizer :=
  { s with openQuote := Text.quoteAfter s.openQuote c, piece := s.piece ++ [c] }

/-- Ends the piece.  Trimmed, it is the text of a call, unless it is blank. -/
def endCall (s : Tokenizer) : Tokenizer :=
  { s with
    piece := []
    calls := if s.piece.isBlank then s.calls else s.calls ++ [Call.parse s.piece.trim] }

/-- Ends the piece and the clause, which is dropped if it has no calls. -/
def endClause (s : Tokenizer) : Tokenizer :=
  { s.endCall with
    calls := []
    clauses := if s.endCall.calls.isEmpty then s.clauses else s.clauses ++ [⟨s.endCall.calls⟩] }

/-- Reads a connective: `&&` ends the call, and `||` ends the clause too. -/
def cut (s : Tokenizer) : Connective → Tokenizer
  | .and => s.endCall
  | .or => s.endClause

/-- **Reads a text from the left.**  Outside quotes, two marks that write a connective are taken as it as
soon as they are met. -/
def read : Tokenizer → Text → Tokenizer
  | s, [] => s
  | s, [c] => s.push c
  | s, c :: d :: cs =>
    match connectiveAt? s.openQuote c d with
    | some k => (s.cut k).read cs
    | none => (s.push c).read (d :: cs)

/-- **The clauses of an expression, in one pass** over the trimmed text. -/
def tokenize (expression : Text) : List Clause :=
  (({} : Tokenizer).read expression.trim).endClause.clauses

/-! ## What a tokenizer ends with

The pieces still to be read come in groups, one for each clause.  The first group begins with the piece
that the tokenizer is in and continues its clause. -/

/-- The calls of pieces: blank ones are dropped, and the others are trimmed and read. -/
def callsOf (pieces : List Text) : List Call :=
  (pieces.filter (!·.isBlank)).map fun p => Call.parse p.trim

/-- Clauses without those that have no calls. -/
def dropEmpty (clauses : List Clause) : List Clause :=
  clauses.filter (!·.calls.isEmpty)

/-- The clauses that a tokenizer ends with, if the pieces from the one that it is in to the last are
grouped like this. -/
def clausesAfter (s : Tokenizer) : List (List Text) → List Clause
  | [] => s.clauses
  | g :: gs => s.clauses ++ dropEmpty (⟨s.calls ++ callsOf g⟩ :: gs.map fun g => ⟨callsOf g⟩)

variable (s : Tokenizer)

lemma callsOf_cons (p : Text) (ps : List Text) : callsOf (p :: ps) = callsOf [p] ++ callsOf ps := by
  cases h : p.isBlank <;> simp [callsOf, h]

lemma calls_endCall : s.endCall.calls = s.calls ++ callsOf [s.piece] := by
  cases h : s.piece.isBlank <;> simp [endCall, callsOf, h]

lemma clauses_endClause :
    s.endClause.clauses = s.clauses ++ dropEmpty [⟨s.calls ++ callsOf [s.piece]⟩] := by
  rw [← calls_endCall]
  cases h : s.endCall.calls.isEmpty <;> simp [endClause, dropEmpty, h]

/-- `&&` moves the piece into the calls of the clause. -/
lemma clausesAfter_endCall (g : List Text) (gs : List (List Text)) :
    s.endCall.clausesAfter (g :: gs) = s.clausesAfter ((s.piece :: g) :: gs) := by
  rw [clausesAfter, clausesAfter, calls_endCall, callsOf_cons s.piece g, List.append_assoc]
  rfl

/-- `||` moves the clause into those that have ended. -/
lemma clausesAfter_endClause (g : List Text) (gs : List (List Text)) :
    s.endClause.clausesAfter (g :: gs) = s.clausesAfter ([s.piece] :: g :: gs) := by
  have hcalls : s.endClause.calls = [] := rfl
  rw [clausesAfter, clausesAfter, clauses_endClause, hcalls, List.nil_append, List.append_assoc]
  refine congrArg (s.clauses ++ ·) ?_
  rw [dropEmpty, dropEmpty, dropEmpty, ← List.filter_append]
  rfl

lemma clausesAfter_cut (k : Connective) (K : Chain Text) :
    (s.cut k).clausesAfter K.groups = s.clausesAfter (Chain.next s.piece k K).groups := by
  obtain ⟨g, gs, hg⟩ := List.exists_cons_of_ne_nil K.groups_ne_nil
  cases k with
  | and =>
      rw [Chain.groups, hg]
      exact clausesAfter_endCall s g gs
  | or =>
      rw [Chain.groups, hg]
      exact clausesAfter_endClause s g gs

/-! ## One pass and two -/

/-- **What reading a text does to a tokenizer** is said by the one-pass scan of the text: its pieces, the
first of them continuing the piece that the tokenizer is in. -/
theorem clauses_endClause_read (t : Text) :
    (s.read t).endClause.clauses = s.clausesAfter ((scan s.openQuote t).prepend s.piece).groups := by
  fun_induction read s t with
  | case1 s =>
      rw [scan, Chain.prepend, List.append_nil]
      exact clauses_endClause s
  | case2 s c => exact clauses_endClause (s.push c)
  | case3 s c d cs k hk ih =>
      obtain ⟨hquote, -, -⟩ := connectiveAt?_eq_some_iff.mp hk
      -- a connective is only met outside quotes, and there the tokenizer starts a new piece
      have hcut : (s.cut k).openQuote = none ∧ (s.cut k).piece = [] := by
        cases k <;> exact ⟨hquote, rfl⟩
      rw [ih, hcut.1, hcut.2, Chain.prepend_nil, clausesAfter_cut, scan, hk, Chain.prepend,
        List.append_nil]
  | case4 s c d cs hk ih =>
      rw [ih, scan, hk, ← Chain.prepend_append]
      rfl

/-- **Two passes find what one pass finds**, in every text, well formed or not. -/
theorem clauses_eq_tokenize (expression : Text) :
    Expression.clauses expression = tokenize expression := by
  have hclause : ∀ p, Clause.parse p = ⟨callsOf (Text.unquotedPieces andOperator p)⟩ := by
    intro p
    simp [Clause.parse, callsOf, Expression.parse_trim]
  obtain ⟨g, gs, hg⟩ := List.exists_cons_of_ne_nil (scan none expression.trim).groups_ne_nil
  rw [tokenize, clauses_endClause_read, Chain.prepend_nil, hg]
  calc Expression.clauses expression
      = dropEmpty ((Text.unquotedPieces orOperator expression.trim).map Clause.parse) := rfl
    _ = dropEmpty ((g :: gs).map fun g => ⟨callsOf g⟩) := by
        rw [← hg, Expression.groups_scan, List.map_map]
        exact congrArg _ (List.map_congr_left fun p _ => hclause p)
    _ = clausesAfter {} (g :: gs) := rfl

/-- A run of marks is cut from the left, and an open quote hides the connectives after it. -/
example : (tokenize "a() &&||| b('x || c()".toList).map (·.calls.map (·.source))
    = [["a()".toList], ["| b('x || c()".toList]] := by
  decide

end Tokenizer

end BranchPolicy
