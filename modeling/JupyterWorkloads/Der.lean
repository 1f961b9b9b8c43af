/-! Octets in the distinguished encoding: items of a tag, a length and a content, where a length has one form
only. -/
namespace JupyterWorkloads

/-- An item by its tag, which says what the content is. -/
structure Der where
  tag : UInt8
  content : List UInt8
  deriving DecidableEq, Inhabited

namespace Der

def boolean : UInt8 := 0x01
def integer : UInt8 := 0x02
def bits : UInt8 := 0x03
def octets : UInt8 := 0x04
def identifier : UInt8 := 0x06
def sequence : UInt8 := 0x30

/-- The tag of a field that may be left out and is told by its number. -/
def field (number : UInt8) : UInt8 := 0xa0 + number

def longest : Nat := 65534

def value (octets : List UInt8) : Nat := octets.foldl (fun n o => 256 * n + o.toNat) 0

/-- Reads a length that is written in some octets. It must not fit into fewer. -/
def length? (count : Nat) (rest : List UInt8) : Option (Nat × List UInt8) := do
  guard (1 ≤ count && count ≤ 4 && count ≤ rest.length)
  let n := value (rest.take count)
  let least := if count = 1 then 128 else Nat.pow 256 (count - 1)
  if least ≤ n then some (n, rest.drop count) else none

def item? : List UInt8 → Option (Der × List UInt8)
  | tag :: n :: rest => do
    guard (tag % 32 ≠ 31)
    let (length, rest) ← if n < 128 then some (n.toNat, rest) else length? (n.toNat - 128) rest
    guard (length ≤ longest && length ≤ rest.length)
    return (⟨tag, rest.take length⟩, rest.drop length)
  | _ => none

/-- Reads items to the end; `fuel` bounds their number. -/
def itemsFrom? : Nat → List UInt8 → Option (List Der)
  | _, [] => some []
  | 0, _ => none
  | fuel + 1, octets => do
    let (item, rest) ← item? octets
    return item :: (← itemsFrom? fuel rest)

def items? (octets : List UInt8) : Option (List Der) := itemsFrom? octets.length octets

/-- The items in a content, if the item has the tag. -/
def inside? (d : Der) (tag : UInt8) : Option (List Der) :=
  if d.tag = tag then items? d.content else none

/-- The items in the one item that octets are made of. -/
def only? (tag : UInt8) (octets : List UInt8) : Option (List Der) := do
  match ← items? octets with
  | [d] => d.inside? tag
  | _ => none

end Der

end JupyterWorkloads
