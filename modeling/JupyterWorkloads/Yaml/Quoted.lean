import JupyterWorkloads.Json.Reader
import JupyterWorkloads.Yaml.Spot

/-! Scalars in quotes. They may run over several lines: the breaks are folded, and between double quotes
a backslash takes one away. -/
namespace JupyterWorkloads.Yaml

/-- What is between two words of a scalar. -/
structure Gap where
  blanks : List Char
  breaks : List Char
  /-- The first break has been taken away. -/
  joined : Bool
  deriving DecidableEq, Inhabited

namespace Gap

def none : Gap := ⟨[], [], false⟩

/-- The gap after a break that is taken away. -/
def join : Gap := ⟨[], [], true⟩

def hasBreak (g : Gap) : Bool := g.joined || !g.breaks.isEmpty

/-- Blanks after a break do not count. -/
def addBlank (g : Gap) (c : Char) : Gap :=
  if g.hasBreak then g else { g with blanks := g.blanks ++ [c] }

def addBreak (g : Gap) (c : Char) : Gap := { g with blanks := [], breaks := g.breaks ++ [c] }

/-- What the gap says: the blanks; or a space for one break; or the breaks after the first one. The
separators of Unicode stay. -/
def folded (g : Gap) : List Char :=
  if g.joined then g.breaks
  else match g.breaks with
    | [] => g.blanks
    | ['\n'] => [' ']
    | '\n' :: rest => rest
    | breaks => breaks

end Gap

def escapedChar? : Char → Option Char
  | '0' => some '\x00'
  | 'a' => some '\x07'
  | 'b' => some '\x08'
  | 't' | '\t' => some '\t'
  | 'n' => some '\n'
  | 'v' => some '\x0b'
  | 'f' => some '\x0c'
  | 'r' => some '\r'
  | 'e' => some '\x1b'
  | ' ' => some ' '
  | '"' => some '"'
  | '/' => some '/'
  | '\\' => some '\\'
  | 'N' => some '\u0085'
  | '_' => some '\u00a0'
  | 'L' => some '\u2028'
  | 'P' => some '\u2029'
  | _ => none

/-- How many digits follow a letter after a backslash. -/
def escapedDigits : Char → Nat
  | 'x' => 2
  | 'u' => 4
  | 'U' => 8
  | _ => 0

mutual

/-- Reads the rest of a scalar in double quotes after a gap. -/
def doubleQuoted? (gap : Gap) : List Spot → Option (List Char × List Spot)
  | [] => none
  | [s] => if s.char = '"' then some (gap.folded, []) else none
  | s :: next :: rest =>
    if s.char = endMark || isDocumentLine (s :: next :: rest) then none
    else if isBlank s.char then doubleQuoted? (gap.addBlank s.char) (next :: rest)
    else if isBreak s.char then doubleQuoted? (gap.addBreak s.char) (next :: rest)
    else if s.char = '"' then some (gap.folded, next :: rest)
    else if s.char ≠ '\\' then do
      let (text, rest) ← doubleQuoted? .none (next :: rest)
      return (gap.folded ++ s.char :: text, rest)
    else if isBreak next.char then do
      let (text, rest) ← doubleQuoted? .join rest
      return (gap.folded ++ text, rest)
    else if escapedDigits next.char ≠ 0 then do
      let (text, rest) ← codePoint? (escapedDigits next.char) 0 rest
      return (gap.folded ++ text, rest)
    else do
      let c ← escapedChar? next.char
      let (text, rest) ← doubleQuoted? .none rest
      return (gap.folded ++ c :: text, rest)

def codePoint? (digits code : Nat) : List Spot → Option (List Char × List Spot)
  | [] => none
  | s :: rest => do
    let code := 16 * code + (← Json.hexValue? s.char)
    if 1 < digits then codePoint? (digits - 1) code rest
    else if code.isValidChar then
      let (text, rest) ← doubleQuoted? .none rest
      return (Char.ofNat code :: text, rest)
    else none

end

/-- Reads the rest of a scalar in single quotes after a gap. Two quotes stand for one. -/
def singleQuoted? (gap : Gap) : List Spot → Option (List Char × List Spot)
  | [] => none
  | [s] => if s.char = '\'' then some (gap.folded, []) else none
  | s :: next :: rest =>
    if s.char = endMark || isDocumentLine (s :: next :: rest) then none
    else if isBlank s.char then singleQuoted? (gap.addBlank s.char) (next :: rest)
    else if isBreak s.char then singleQuoted? (gap.addBreak s.char) (next :: rest)
    else if s.char ≠ '\'' then do
      let (text, rest) ← singleQuoted? .none (next :: rest)
      return (gap.folded ++ s.char :: text, rest)
    else if next.char = '\'' then do
      let (text, rest) ← singleQuoted? .none rest
      return (gap.folded ++ '\'' :: text, rest)
    else some (gap.folded, next :: rest)

end JupyterWorkloads.Yaml
