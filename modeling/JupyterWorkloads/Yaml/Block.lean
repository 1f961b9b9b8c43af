import JupyterWorkloads.Text.Decimal
import JupyterWorkloads.Yaml.Spot

/-! Scalars that are blocks of indented lines after a bar, which keeps the breaks, or an angle, which
folds them. -/
namespace JupyterWorkloads.Yaml

/-- What happens to the breaks at the end of a block. -/
inductive Chomping where
  | strip
  | clip
  | keep
  deriving DecidableEq, Inhabited

/-- What follows the indicator of a block on its line. -/
structure BlockHeader where
  chomping : Chomping
  /-- How much deeper than its surroundings the block is indented; unknown if zero. -/
  indent : Nat
  deriving DecidableEq, Inhabited

namespace BlockHeader

def chomping? : Char → Option Chomping
  | '-' => some .strip
  | '+' => some .keep
  | _ => none

def digit? (c : Char) : Option Nat :=
  if '1' ≤ c ∧ c ≤ '9' then some (Text.digitsValue [c]) else none

/-- Reads both marks, in any order. The digit zero is refused. -/
def read? (spots : List Spot) : Option (BlockHeader × List Spot) :=
  let c := charAt 0 spots
  let d := charAt 1 spots
  match chomping? c with
  | some chomping =>
    if d = '0' then none
    else match digit? d with
      | some indent => some (⟨chomping, indent⟩, spots.drop 2)
      | none => some (⟨chomping, 0⟩, spots.drop 1)
  | none =>
    if c = '0' then none
    else match digit? c, chomping? d with
      | some indent, some chomping => some (⟨chomping, indent⟩, spots.drop 2)
      | some indent, none => some (⟨.clip, indent⟩, spots.drop 1)
      | none, _ => some (⟨.clip, 0⟩, spots)

end BlockHeader

/-- Empty lines: their breaks, and the greatest column that was reached. -/
structure EmptyLines where
  breaks : List Char
  reached : Nat
  rest : List Spot
  deriving DecidableEq, Inhabited

/-- Reads empty lines and the indentation of the next line. No tab may stand in the indentation. -/
def emptyLines? (indent reached : Nat) : List Spot → Option EmptyLines
  | [] => some ⟨[], reached, []⟩
  | s :: rest =>
    let inside : Bool := indent = 0 || s.column < indent
    let reached := max reached s.column
    if inside && s.char = ' ' then emptyLines? indent reached rest
    else if inside && s.char = '\t' then none
    else if isBreak s.char then
      (emptyLines? indent reached rest).map fun e => { e with breaks := s.char :: e.breaks }
    else some ⟨[], reached, s :: rest⟩

/-- A line that has been read: whether it starts with a blank, and its break. -/
structure BlockLine where
  startsBlank : Bool
  ending : List Char
  deriving DecidableEq, Inhabited

/-- What stands between two lines of a block. Two lines that do not start with a blank are folded. -/
def betweenLines (literal startsBlank : Bool) (before : BlockLine) (breaks : List Char) : List Char :=
  if !literal && before.ending = ['\n'] && !before.startsBlank && !startsBlank then
    if breaks.isEmpty then [' '] else breaks
  else before.ending ++ breaks

/-- Reads the lines of a block after a line and empty lines; `fuel` bounds their number. -/
def blockLines? (literal : Bool) (chomping : Chomping) (indent : Nat) :
    Nat → BlockLine → EmptyLines → Option (List Char × List Spot)
  | 0, _, _ => none
  | fuel + 1, before, ⟨breaks, _, spots⟩ =>
    match spots with
    | [] => none
    | s :: _ =>
      if s.column ≠ indent ∨ s.char = endMark then
        some (match chomping with
          | .strip => []
          | .clip => before.ending
          | .keep => before.ending ++ breaks, spots)
      else do
        let startsBlank := isBlank s.char
        let line := spots.takeWhile fun s => !isBreakOrEnd s.char
        let (ending, rest) := match spots.drop line.length with
          | e :: rest => if isBreak e.char then ([e.char], rest) else ([], e :: rest)
          | [] => ([], [])
        let (text, rest) ←
          blockLines? literal chomping indent fuel ⟨startsBlank, ending⟩ (← emptyLines? indent 0 rest)
        return (betweenLines literal startsBlank before breaks ++ line.map Spot.char ++ text, rest)

/-- Reads a block after its indicator. `outer` is the column of what surrounds it, plus one. -/
def block? (fuel : Nat) (literal : Bool) (outer : Nat) (spots : List Spot) :
    Option (List Char × List Spot) := do
  let (header, rest) ← BlockHeader.read? spots
  let rest ← afterLine? rest
  let given := if header.indent = 0 then 0 else outer - 1 + header.indent
  let empty ← emptyLines? given 0 rest
  let indent := if given = 0 then max (max empty.reached outer) 1 else given
  blockLines? literal header.chomping indent fuel ⟨false, []⟩ empty

end JupyterWorkloads.Yaml
