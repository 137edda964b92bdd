import BranchPolicy.Yaml.Scalar

/-!
# Nodes of a document

The part of YAML that config files need: scalars, lists and tables, in brackets or as blocks of
lines. Anchors, tags, directives, block scalars and keys after a question mark are not part of it.

* `Yaml.Node` — scalars, lists and tables.
* `Yaml.bracketNode?` — reads a node inside brackets, where line breaks mean nothing.
* `Yaml.blockNode?` — reads a node whose lists and tables are blocks of lines.
* `Yaml.read?` — reads a document.
-/

namespace BranchPolicy.Yaml

/-- What a document holds: scalars with their content, lists and tables. -/
inductive Node where
  | plain (content : Text)
  | quoted (content : Text)
  | list (items : List Node)
  | table (entries : List (Node × Node))

namespace Node

/-- The node that stands where nothing is written. -/
def missing : Node :=
  .plain []

/-- Whether a node is a scalar. -/
def isScalar : Node → Bool
  | .plain _ => true
  | .quoted _ => true
  | _ => false

end Node

/-! ## Scalars and keys -/

/-- Reads the scalar at the start of a text. -/
def scalar? (inBrackets : Bool) (floor : Nat) (t : Text) : Option (Node × Text) :=
  if t.head? == some '\x27' || t.head? == some '\x22' then
    (quoted? t).map fun (content, rest) => (.quoted content, rest)
  else if startsPlain inBrackets t then
    let (content, rest) := plain inBrackets floor t
    some (.plain content, rest)
  else none

/-- The greatest number of characters from the start of a key to its colon. -/
def longestKey : Nat :=
  1024

/-- Whether what stands between a text and the rest of it can be a key: it is written on one line,
and it is not too long. -/
def fitsKey (t rest : Text) : Bool :=
  let written := t.take (t.length - rest.length)
  written.length ≤ longestKey && !written.any isBreak

/-! ## Inside brackets -/

/-- The text from the next token on; there is none if a marker comes first. -/
def bracketGap? (t : Text) : Option Text :=
  let g := gap 1 t
  if g.atMarker then none else some g.rest

/-- Whether the value of a key is missing before a text. -/
def endsPair (t : Text) : Bool :=
  t.head?.any ",]\x7d".toList.contains

mutual

/-- **Reads the node at the start of a text inside brackets.** -/
def bracketNode? : (fuel : Nat) → Text → Option (Node × Text)
  | 0, _ => none
  | fuel + 1, '[' :: cs => do
    let (items, rest) ← bracketItems? fuel (← bracketGap? cs)
    return (.list items, rest)
  | fuel + 1, '\x7b' :: cs => do
    let (entries, rest) ← bracketEntries? fuel (← bracketGap? cs)
    return (.table entries, rest)
  | _ + 1, t => scalar? true 0 t

/-- Reads a node and the value that follows if the node is a key. -/
def bracketPair? : (fuel : Nat) → Text → Option (Node × Option Node × Text)
  | 0, _ => none
  | fuel + 1, t => do
    let (key, rest) ← bracketNode? fuel t
    match ← bracketGap? rest with
    | ':' :: cs =>
      if key.isScalar && fitsKey t (':' :: cs) then
        let next ← bracketGap? cs
        if endsPair next then return (key, some .missing, next)
        else
          let (value, rest) ← bracketNode? fuel next
          return (key, some value, rest)
      else none
    | next => return (key, none, next)

/-- Reads the items of a list up to its closing bracket. A key with a value is a table of its own,
and a comma may follow the last item. -/
def bracketItems? : (fuel : Nat) → Text → Option (List Node × Text)
  | 0, _ => none
  | _ + 1, ']' :: cs => some ([], cs)
  | fuel + 1, t => do
    let (key, value?, rest) ← bracketPair? fuel t
    let item := match value? with
      | some value => .table [(key, value)]
      | none => key
    match ← bracketGap? rest with
    | ',' :: cs =>
      let (items, rest) ← bracketItems? fuel (← bracketGap? cs)
      return (item :: items, rest)
    | ']' :: cs => return ([item], cs)
    | _ => none

/-- Reads the entries of a table up to its closing brace. A key may stand without a value, and a
comma may follow the last entry. -/
def bracketEntries? : (fuel : Nat) → Text → Option (List (Node × Node) × Text)
  | 0, _ => none
  | _ + 1, '\x7d' :: cs => some ([], cs)
  | fuel + 1, t => do
    let (key, value?, rest) ← bracketPair? fuel t
    let entry := (key, value?.getD .missing)
    match ← bracketGap? rest with
    | ',' :: cs =>
      let (entries, rest) ← bracketEntries? fuel (← bracketGap? cs)
      return (entry :: entries, rest)
    | '\x7d' :: cs => return ([entry], cs)
    | _ => none

end

/-! ## Blocks of lines

The items of a list and the entries of a table start in the same column, and what belongs to one of
them stands deeper. A list may stand in the column of the key whose value it is. -/

/-- Whether a text starts with the hyphen of an item. -/
def isItemMark : Text → Bool
  | '-' :: cs => endsIndicator cs
  | _ => false

/-- Reads a node that starts within a line, where no block can start. -/
def inlineNode? (fuel floor : Nat) (t : Text) : Option (Node × Text) :=
  if t.head? == some '[' || t.head? == some '\x7b' then bracketNode? fuel t
  else scalar? false floor t

mutual

/-- **Reads the node that starts in a column**, all of it in columns from `floor` on. -/
def blockNode? : (fuel floor column : Nat) → Text → Option (Node × Text)
  | 0, _, _, _ => none
  | fuel + 1, floor, column, t =>
    if isItemMark t then do
      let (items, rest) ← blockItems? fuel column t
      return (.list items, rest)
    else do
      let (node, rest) ← inlineNode? fuel floor t
      let mark := (gap 1 rest).rest
      if !isKeyMark false mark then return (node, rest)
      else if node.isScalar && fitsKey t mark then
        let (entries, rest) ← blockEntries? fuel column node mark.tail
        return (.table entries, rest)
      else none

/-- Reads the items of a list from one of its hyphens on. -/
def blockItems? : (fuel column : Nat) → Text → Option (List Node × Text)
  | 0, _, _ => none
  | fuel + 1, column, t => do
    let start := gap (column + 1) t.tail
    let (item, rest) ←
      if start.endsBlock (column + 1) then some (.missing, t.tail)
      else blockNode? fuel (column + 1) start.column start.rest
    let g := gap 1 rest
    if g.endsBlock column then return ([item], rest)
    else if !g.newLine || g.column != column then none
    else if isItemMark g.rest then
      let (items, rest) ← blockItems? fuel column g.rest
      return (item :: items, rest)
    else return ([item], rest)

/-- Reads the entries of a table from the text after the colon of one of its keys on. -/
def blockEntries? : (fuel column : Nat) → (key : Node) → Text → Option (List (Node × Node) × Text)
  | 0, _, _, _ => none
  | fuel + 1, column, key, t => do
    let (value, rest) ← blockValue? fuel column t
    let g := gap 1 rest
    if g.endsBlock column then return ([(key, value)], rest)
    else if !g.newLine || g.column != column then none
    else
      let (next, rest) ← scalar? false (column + 1) g.rest
      let mark := (gap 1 rest).rest
      if isKeyMark false mark && fitsKey g.rest mark then
        let (entries, rest) ← blockEntries? fuel column next mark.tail
        return ((key, value) :: entries, rest)
      else none

/-- Reads the value of a key that starts in a column, from the text after the colon on. -/
def blockValue? : (fuel column : Nat) → Text → Option (Node × Text)
  | 0, _, _ => none
  | fuel + 1, column, t =>
    let g := gap 1 t
    if g.endsDocument then some (.missing, t)
    else if !g.newLine then inlineNode? fuel (column + 1) g.rest
    else if column < g.column then blockNode? fuel (column + 1) g.column g.rest
    else if column == g.column && isItemMark g.rest then do
      let (items, rest) ← blockItems? fuel column g.rest
      return (.list items, rest)
    else some (.missing, t)

end

/-! ## Documents -/

/-- Reads the node of a document after its start marker, on whose line no block can start. -/
def markedNode? (fuel : Nat) (t : Text) : Option (Node × Text) :=
  let g := gap 3 t
  if g.endsDocument then some (.missing, t)
  else if g.newLine then blockNode? fuel 0 g.column g.rest
  else inlineNode? fuel 0 g.rest

/-- Reads the node of a document, which a start marker may precede. -/
def rootNode? (fuel : Nat) (t : Text) : Option (Node × Text) :=
  let g := firstGap t
  if g.rest.isEmpty then some (.missing, [])
  else if g.atMarker then
    if g.rest.head? == some '-' then markedNode? fuel (g.rest.drop 3) else none
  else blockNode? fuel 0 g.column g.rest

/-- Whether nothing but end markers and comments is left of a document. -/
def isFinished : (fuel : Nat) → Text → Bool
  | 0, _ => false
  | fuel + 1, t =>
    let g := gap 1 t
    g.rest.isEmpty ||
      (g.atMarker && g.rest.head? == some '.' && isFinished fuel (g.rest.drop 3))

/-- A text without a byte order mark at its start. -/
def dropByteOrderMark : Text → Text
  | '\ufeff' :: cs => cs
  | cs => cs

/-- **Reads a document**, `none` if it is malformed. No step of the reading goes deeper than four
calls for each character, which bounds it. -/
def read? (contents : Text) : Option Node := do
  let t := unifyBreaks contents
  let fuel := 4 * t.length + 4
  let (node, rest) ← rootNode? fuel (dropByteOrderMark t)
  if t.all isAllowed && isFinished fuel rest then some node else none

end BranchPolicy.Yaml
