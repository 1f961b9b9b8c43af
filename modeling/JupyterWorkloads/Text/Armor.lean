import JupyterWorkloads.Text.Base64
import JupyterWorkloads.Text.Blank

/-! Blocks of octets in a text, each between two lines of dashes with its label, written in sixty-four
letters after perhaps some headers. What stands around the blocks does not count. -/
namespace JupyterWorkloads.Text.Armor

abbrev Octets := List UInt8

def ofString (s : String) : Octets := s.toUTF8.toList

def toString? (octets : Octets) : Option String := String.fromUTF8? ⟨octets.toArray⟩

/-- Looks for what is left of a mark and gives what is before the mark, turned round, and after it. The
search never looks back: where the mark breaks off it starts again with the next octet. -/
def search (mark left before : Octets) : Octets → Option (Octets × Octets)
  | [] => none
  | o :: rest =>
    match left with
    | m :: more =>
      if o ≠ m then search mark mark (o :: before) rest
      else if more.isEmpty then some ((o :: before).drop mark.length, rest)
      else search mark more (o :: before) rest
    | [] => none

def splitAt? (mark : String) (octets : Octets) : Option (Octets × Octets) :=
  let mark := ofString mark
  (search mark mark [] octets).map fun (before, after) => (before.reverse, after)

structure Written where
  label : Octets
  body : Octets
  endLabel : Octets
  deriving DecidableEq, Inhabited

structure Block where
  label : String
  content : Octets
  deriving DecidableEq, Inhabited

def skipSpace (octets : Octets) : Octets := octets.dropWhile [0x20, 0x09, 0x0a, 0x0d].contains

def first? (octets : Octets) : Option (Written × Octets) := do
  let (_, rest) ← splitAt? "-----BEGIN " octets
  let (label, rest) ← splitAt? "-----" rest
  let (body, rest) ← splitAt? "-----END " (skipSpace rest)
  let (endLabel, rest) ← splitAt? "-----" rest
  return (⟨label, body, endLabel⟩, skipSpace rest)

/-- The complete blocks; `fuel` bounds their number. -/
def written : Nat → Octets → List Written
  | 0, _ => []
  | fuel + 1, octets =>
    match first? octets with
    | none => []
    | some (block, rest) => block :: written fuel rest

/-- Cuts the headers off, which end at an empty line. -/
def withoutHeaders (body : Octets) : Octets × Octets :=
  ((splitAt? "\n\n" body).or (splitAt? "\r\n\r\n" body)).getD ([], body)

/-- Whether each line has a colon in it. A line may be missing at the end. -/
def areHeaders (headers : String) : Bool :=
  let lines := headers.splitOn "\n"
  let lines := if lines.getLast? = some "" then lines.dropLast else lines
  lines.all fun line => line.contains ':'

/-- Reads a block, whose labels must be the same and not empty. White space in its letters does not
count. -/
def Written.read? (block : Written) : Option Block := do
  let label ← toString? block.label
  let endLabel ← toString? block.endLabel
  guard (!label.isEmpty && label = endLabel)
  let (headers, letters) := withoutHeaders block.body
  guard (areHeaders (← toString? headers))
  let content ← Base64.decode? ((← toString? letters).toList.filter fun c => !isBlank c)
  return ⟨label, content⟩

/-- The blocks of a text, all of which must be readable. -/
def blocks? (octets : Octets) : Option (List Block) :=
  (written octets.length octets).mapM Written.read?

end JupyterWorkloads.Text.Armor
