import JupyterWorkloads.Yaml.Block
import JupyterWorkloads.Yaml.Directive
import JupyterWorkloads.Yaml.Plain
import JupyterWorkloads.Yaml.Quoted

/-! The tokens that a text says by its layout: a line that is indented more opens a block, one that is
indented less closes it, and a colon makes what stands before it on its line a key. -/
namespace JupyterWorkloads.Yaml

/-- A token that a colon further on makes the start of a key. -/
structure PossibleKey where
  /-- How many tokens come before it. -/
  place : Nat
  line : Nat
  column : Nat
  /-- It stands where only a key may stand. -/
  required : Bool
  deriving DecidableEq, Inhabited

/-- The greatest length of a key that is not marked as one. -/
def longestKey : Nat := 1024

structure Layout where
  /-- The tokens so far, the last one first. -/
  tokens : List Token
  count : Nat
  /-- The columns of the open blocks, the innermost first. -/
  columns : List Nat
  keyAllowed : Bool
  key : Option PossibleKey
  /-- What may become a key around each open bracket, the innermost first. -/
  outerKeys : List (Option PossibleKey)
  rest : List Spot
  deriving DecidableEq, Inhabited

namespace Layout

def start (spots : List Spot) : Layout := ⟨[], 0, [], true, none, [], spots⟩

def inFlow (l : Layout) : Bool := !l.outerKeys.isEmpty

/-- The least column of what is inside the innermost block. -/
def inside (l : Layout) : Nat := l.columns.head?.elim 0 (· + 1)

def push (l : Layout) (token : Token) : Layout :=
  { l with tokens := token :: l.tokens, count := l.count + 1 }

def insert (l : Layout) (place : Nat) (token : Token) : Layout :=
  let later := l.count - place
  { l with
    tokens := l.tokens.take later ++ token :: l.tokens.drop later
    count := l.count + 1 }

/-- Opens a block at a column, unless it is open or a bracket is. -/
def openBlock (l : Layout) (column place : Nat) (token : Token) : Layout :=
  if l.inFlow || column < l.inside then l
  else { l.insert place token with columns := column :: l.columns }

/-- Closes the blocks at a column and right of it, unless a bracket is open. -/
def closeBlocks (l : Layout) (column : Nat) : Layout :=
  if l.inFlow then l
  else
    let closed := (l.columns.takeWhile (column ≤ ·)).length
    { l with
      tokens := List.replicate closed .blockEnd ++ l.tokens
      count := l.count + closed
      columns := l.columns.drop closed }

/-- Gives up what may become a key. -/
def dropKey? (l : Layout) : Option Layout :=
  if l.key.any PossibleKey.required then none else some { l with key := none }

def noteKey? (l : Layout) (s : Spot) : Option Layout :=
  if !l.keyAllowed then some l
  else do
    let l ← l.dropKey?
    let required : Bool := !l.inFlow && l.inside = s.column + 1
    return { l with key := some ⟨l.count, s.line, s.column, required⟩ }

/-- Gives up what is on an earlier line, or too long to be a key. What stands before an open bracket is
looked at when the bracket has been closed. -/
def dropStale? (l : Layout) (s : Spot) : Option Layout :=
  if l.key.any fun k => k.line < s.line || k.column + longestKey < s.column then l.dropKey?
  else some l

/-- Skips blanks, comments and breaks. A tab may not stand where a key could start. -/
def skip (flow comment keyAllowed : Bool) : List Spot → Bool × List Spot
  | [] => (keyAllowed, [])
  | s :: rest =>
    if isBreak s.char then skip flow false (keyAllowed || !flow) rest
    else if s.char = endMark then (keyAllowed, s :: rest)
    else if comment || s.char = '#' then skip flow true keyAllowed rest
    else if s.char = ' ' || (s.char = '\t' && (flow || !keyAllowed)) ||
        (s.char = byteOrderMark && s.column = 0) then skip flow false keyAllowed rest
    else (keyAllowed, s :: rest)

def skipSpace (l : Layout) : Layout :=
  let (keyAllowed, rest) := skip l.inFlow false l.keyAllowed l.rest
  { l with keyAllowed := keyAllowed, rest := rest }

/-- Reads what stands between documents, which closes every block. -/
def boundary? (l : Layout) (token : Token) (rest : List Spot) : Option Layout := do
  let l ← (l.closeBlocks 0).dropKey?
  return { l.push token with keyAllowed := false, rest := rest }

def openFlow? (l : Layout) (s : Spot) (token : Token) : Option Layout := do
  let l ← l.noteKey? s
  return { l.push token with keyAllowed := true, key := none, outerKeys := l.key :: l.outerKeys }

def closeFlow? (l : Layout) (token : Token) : Option Layout := do
  let l ← l.dropKey?
  return {
    l.push token with
    keyAllowed := false
    key := l.outerKeys.head?.join
    outerKeys := l.outerKeys.drop 1 }

/-- Reads the mark of an item or of a key. In a block it must stand where a key may start. -/
def mark? (l : Layout) (s : Spot) (block token : Token) (keyAllowed : Bool) : Option Layout := do
  guard (l.inFlow || l.keyAllowed)
  let l ← (l.openBlock s.column l.count block).dropKey?
  return { l.push token with keyAllowed := keyAllowed }

/-- Reads the colon after a key. A key that is not marked gets its mark now. -/
def value? (l : Layout) (s : Spot) : Option Layout :=
  match l.key with
  | none => do
    guard (l.inFlow || l.keyAllowed)
    let l := l.openBlock s.column l.count .blockMapping
    return { l.push .value with keyAllowed := !l.inFlow }
  | some k =>
    let l := (l.insert k.place .key).openBlock k.column k.place .blockMapping
    some { l.push .value with keyAllowed := false, key := none }

/-- Reads a token that may be a key, or the start of one. -/
def word? (l : Layout) (s : Spot) (token : Token) (rest : List Spot) : Option Layout := do
  let l ← l.noteKey? s
  return { l.push token with keyAllowed := false, rest := rest }

def plain? (l : Layout) (fuel : Nat) (s : Spot) (rest : List Spot) : Option Layout := do
  let scalar ← Yaml.plain? fuel l.inFlow l.inside (s :: rest)
  let l ← l.word? s (.scalar true (String.ofList scalar.text)) scalar.rest
  return { l with keyAllowed := scalar.endsLine }

def quoted? (l : Layout) (s : Spot) (scalar : Option (List Char × List Spot)) : Option Layout := do
  let (text, rest) ← scalar
  l.word? s (.scalar false (String.ofList text)) rest

def block? (l : Layout) (fuel : Nat) (literal : Bool) (rest : List Spot) : Option Layout := do
  let (text, rest) ← Yaml.block? fuel literal l.inside rest
  let l ← l.dropKey?
  return {
    l.push (.scalar false (String.ofList text)) with
    keyAllowed := true
    rest := rest }

def next? (l : Layout) (fuel : Nat) (s : Spot) (rest : List Spot) : Option Layout :=
  let l := { l with rest := rest }
  let gapFollows := isGap (charAt 0 rest)
  if s.char = '%' ∧ s.column = 0 then do
    let (token, rest) ← directive? rest
    l.boundary? token rest
  else if isDocumentLine (s :: rest) then
    l.boundary? (if s.char = '-' then .documentStart else .documentEnd) (rest.drop 2)
  else match s.char with
    | '[' => l.openFlow? s .flowSequence
    | '\x7b' => l.openFlow? s .flowMapping
    | ']' => l.closeFlow? .flowSequenceEnd
    | '\x7d' => l.closeFlow? .flowMappingEnd
    | ',' => l.dropKey?.map fun l => { l.push .flowEntry with keyAllowed := true }
    | '*' => do
      let (name, rest) ← anchor? rest
      l.word? s (.alias name) rest
    | '&' => do
      let (name, rest) ← anchor? rest
      l.word? s (.anchor name) rest
    | '!' => do
      let ((handle, suffix), rest) ← tag? l.inFlow rest
      l.word? s (.tag handle suffix) rest
    | '\'' => l.quoted? s (singleQuoted? .none rest)
    | '"' => l.quoted? s (doubleQuoted? .none rest)
    | c =>
      if c = '-' && gapFollows then l.mark? s .blockSequence .blockEntry true
      else if c = '?' && (l.inFlow || gapFollows) then l.mark? s .blockMapping .key !l.inFlow
      else if c = ':' && (l.inFlow || gapFollows) then l.value? s
      else if (c = '|' || c = '>') && !l.inFlow then l.block? fuel (c = '|') rest
      else if startsPlain l.inFlow (s :: rest) then l.plain? fuel s rest
      else none

def finish? : Nat → Layout → Option (List Token)
  | 0, _ => none
  | fuel + 1, l => do
    let l := l.skipSpace
    match l.rest with
    | [] => none
    | s :: rest =>
      let l ← l.dropStale? s
      let l := l.closeBlocks (s.column + 1)
      if s.char = endMark then return (← (l.closeBlocks 0).dropKey?).tokens.reverse
      else finish? fuel (← l.next? fuel s rest)

end Layout

/-- The tokens of a text. Every one of them takes a character at least. -/
def tokens? (text : String) : Option (List Token) := do
  let spots ← spots? text
  (Layout.start spots).finish? (spots.length + 1)

end JupyterWorkloads.Yaml
