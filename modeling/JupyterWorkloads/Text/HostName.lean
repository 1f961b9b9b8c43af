import JupyterWorkloads.Json.Reader
import JupyterWorkloads.Text.Decimal
import JupyterWorkloads.Text.Pieces

/-! Names and numbers of hosts. -/
namespace JupyterWorkloads.Text

def isLabelChar (c : Char) : Bool := c.isAlphanum || c = '-' || c = '_'

def isLabel (cs : List Char) : Bool :=
  cs.length ≤ 63 && cs.all isLabelChar && !cs.isEmpty && cs.head? ≠ some '-' && cs.getLast? ≠ some '-'

/-- Whether a text is a host's name: labels with points between them, the last of which is not a number.
A point may stand at the end. -/
def isHostName (text : String) : Bool :=
  let labels := pieces '.' text.toList
  let labels := if labels.getLast? = some [] then labels.dropLast else labels
  text.utf8ByteSize ≤ 253 && labels.all isLabel &&
    labels.getLast?.any fun label => !label.all Char.isDigit

def isOctet (cs : List Char) : Bool :=
  !cs.isEmpty && cs.length ≤ 3 && cs.all Char.isDigit && (cs.length = 1 || cs.head? ≠ some '0') &&
    digitsValue cs ≤ 255

def isShortAddress (cs : List Char) : Bool :=
  let octets := pieces '.' cs
  octets.length = 4 && octets.all isOctet

/-- How many groups of an address texts write, if they write groups. The last one may be a short address,
which stands for two. -/
def groups? : List (List Char) → Option Nat
  | [] => some 0
  | cs :: rest =>
    if !cs.isEmpty && cs.length ≤ 4 && cs.all fun c => (Json.hexValue? c).isSome then
      (groups? rest).map (· + 1)
    else if rest.isEmpty && isShortAddress cs then some 2
    else none

def groupTexts (cs : List Char) : List (List Char) := if cs.isEmpty then [] else pieces ':' cs

/-- What is before the first two colons in a row, and after them. -/
def gap? : List Char → Option (List Char × List Char)
  | ':' :: ':' :: rest => some ([], rest)
  | c :: rest => (gap? rest).map fun (before, after) => (c :: before, after)
  | [] => none

/-- Whether a text is an address of eight groups. Two colons in a row stand for groups left out, and no
short address may come before them. -/
def isLongAddress (cs : List Char) : Bool :=
  match gap? cs with
  | none => groups? (groupTexts cs) = some 8
  | some (before, after) =>
    let texts := groupTexts before
    match groups? texts, groups? (groupTexts after) with
    | some m, some n => m = texts.length && m + n ≤ 7
    | _, _ => false

def isHost (text : String) : Bool :=
  isHostName text || isShortAddress text.toList || isLongAddress text.toList

end JupyterWorkloads.Text
