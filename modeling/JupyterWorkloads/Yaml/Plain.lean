import JupyterWorkloads.Yaml.Quoted

/-! Plain scalars. They end before a colon or a comment, where the lines are indented less, and inside
brackets also before a bracket or a comma. -/
namespace JupyterWorkloads.Yaml

/-- Characters with a meaning inside brackets. -/
def isFlowIndicator (c : Char) : Bool := [',', '[', ']', '\x7b', '\x7d'].contains c

/-- Characters with a meaning where a scalar could start. -/
def isIndicator (c : Char) : Bool :=
  isFlowIndicator c ||
    ['-', '?', ':', '#', '&', '*', '!', '|', '>', '\'', '"', '%', '@', '\x60'].contains c

def startsPlain (flow : Bool) (spots : List Spot) : Bool :=
  let c := charAt 0 spots
  let d := charAt 1 spots
  !(isGap c || isIndicator c) || (c = '-' && !isBlank d) ||
    (!flow && (c = '?' || c = ':') && !isGap d)

/-- Reads a word. A colon before an indicator inside brackets is refused. -/
def word? (flow : Bool) : List Spot → Option (List Char × List Spot)
  | [] => some ([], [])
  | s :: rest =>
    let d := charAt 0 rest
    if isGap s.char then some ([], s :: rest)
    else if flow && s.char = ':' && (isFlowIndicator d || d = '?') then none
    else if (s.char = ':' && isGap d) || (flow && isFlowIndicator s.char) then some ([], s :: rest)
    else do
      let (cs, rest) ← word? flow rest
      return (s.char :: cs, rest)

/-- Reads a gap. After a break no tab may stand in the indentation. -/
def gap? (indent : Nat) (gap : Gap) : List Spot → Option (Gap × List Spot)
  | [] => some (gap, [])
  | s :: rest =>
    if isBlank s.char then
      if gap.hasBreak && s.char = '\t' && s.column < indent then none
      else gap? indent (gap.addBlank s.char) rest
    else if isBreak s.char then gap? indent (gap.addBreak s.char) rest
    else some (gap, s :: rest)

structure PlainScalar where
  text : List Char
  /-- It was followed by a break. -/
  endsLine : Bool
  rest : List Spot
  deriving DecidableEq, Inhabited

/-- Reads what follows a gap; `fuel` bounds the number of words. -/
def plainFrom? (flow : Bool) (indent : Nat) : Nat → Gap → List Spot → Option PlainScalar
  | 0, _, _ => none
  | fuel + 1, gap, spots => do
    if isDocumentLine spots || charAt 0 spots = '#' then return ⟨[], gap.hasBreak, spots⟩
    let (word, rest) ← word? flow spots
    if word.isEmpty then return ⟨[], gap.hasBreak, rest⟩
    let text := gap.folded ++ word
    let (next, after) ← gap? indent .none rest
    if next = .none then return ⟨text, false, rest⟩
    if !flow && (after.head?.elim 0 Spot.column) < indent then
      return ⟨text, next.hasBreak, after⟩
    let more ← plainFrom? flow indent fuel next after
    return { more with text := text ++ more.text }

/-- Reads a plain scalar; `indent` is the least column of its further lines. -/
def plain? (fuel : Nat) (flow : Bool) (indent : Nat) (spots : List Spot) : Option PlainScalar :=
  plainFrom? flow indent fuel .none spots

end JupyterWorkloads.Yaml
