/-! The characters of a YAML text with their places. All breaks but the two separators of Unicode are
written as line feeds, and a mark that no text may hold stands at the end. -/
namespace JupyterWorkloads.Yaml

/-- A character with its line and column, both from zero. -/
structure Spot where
  char : Char
  line : Nat
  column : Nat
  deriving DecidableEq, Inhabited

/-- Stands at the end of every text. -/
def endMark : Char := '\x00'

def byteOrderMark : Char := '\ufeff'

def isBreak (c : Char) : Bool := c = '\n' || c = '\u2028' || c = '\u2029'

def isBlank (c : Char) : Bool := c = ' ' || c = '\t'

def isBreakOrEnd (c : Char) : Bool := isBreak c || c = endMark

def isGap (c : Char) : Bool := isBlank c || isBreakOrEnd c

/-- Characters of names: of anchors, handles and directives. -/
def isNameChar (c : Char) : Bool := c.isAlphanum || c = '_' || c = '-'

def isAllowed (c : Char) : Bool :=
  let n := c.toNat
  n = 0x9 || n = 0xa || n = 0xd || (0x20 ≤ n && n ≤ 0x7e) || n = 0x85 || (0xa0 ≤ n && n ≤ 0xd7ff) ||
    (0xe000 ≤ n && n ≤ 0xfffd) || 0x10000 ≤ n

def withLineFeeds : List Char → List Char
  | [] => []
  | '\r' :: '\n' :: rest => '\n' :: withLineFeeds rest
  | c :: rest => (if c = '\r' || c = '\u0085' then '\n' else c) :: withLineFeeds rest

/-- A text without one mark of its byte order. -/
def withoutMark : List Char → List Char
  | [] => []
  | c :: rest => if c = byteOrderMark then rest else c :: rest

def placed (line column : Nat) : List Char → List Spot
  | [] => [⟨endMark, line, column⟩]
  | c :: rest =>
    ⟨c, line, column⟩ :: if isBreak c then placed (line + 1) 0 rest else placed line (column + 1) rest

/-- The spots of a text. The file and the stream in it may each begin with a mark of the byte order. -/
def spots? (text : String) : Option (List Spot) :=
  let cs := withoutMark (withoutMark text.toList)
  if cs.all isAllowed then some (placed 0 0 (withLineFeeds cs)) else none

def charAt (n : Nat) (spots : List Spot) : Char := (spots[n]?).elim endMark Spot.char

/-- Whether a line starts here that begins or ends a document. -/
def isDocumentLine (spots : List Spot) : Bool :=
  match spots with
  | a :: b :: c :: d :: _ =>
    a.column = 0 && isGap d.char && a.char = b.char && b.char = c.char &&
      (a.char = '-' || a.char = '.')
  | _ => false

def skipBlanks (spots : List Spot) : List Spot := spots.dropWhile fun s => isBlank s.char

/-- The text after the blanks and the comment at the end of a line, and after the break. -/
def afterLine? (spots : List Spot) : Option (List Spot) :=
  let rest := skipBlanks spots
  let rest := if charAt 0 rest = '#' then rest.dropWhile fun s => !isBreakOrEnd s.char else rest
  match rest with
  | [] => some []
  | s :: more =>
    if isBreak s.char then some more else if s.char = endMark then some (s :: more) else none

end JupyterWorkloads.Yaml
