import JupyterWorkloads.Json.Reader
import JupyterWorkloads.Yaml.Spot

/-! What may stand before a value: an anchor, which names it, and a tag, which says its type. A tag is
a handle, which stands for the start of the tag, and the rest of it. -/
namespace JupyterWorkloads.Yaml

def name (spots : List Spot) : List Char × List Spot :=
  let word := spots.takeWhile fun s => isNameChar s.char
  (word.map Spot.char, spots.drop word.length)

def anchor? (spots : List Spot) : Option (String × List Spot) :=
  let (word, rest) := name spots
  let next := charAt 0 rest
  if word.isEmpty then none
  else if isGap next || ['?', ':', ',', ']', '\x7d', '%', '@', '\x60'].contains next then
    some (String.ofList word, rest)
  else none

def isTagChar (c : Char) : Bool :=
  isNameChar c ||
    [';', '/', '?', ':', '@', '&', '=', '+', '$', '.', '%', '!', '~', '*', '\'', '(', ')'].contains c

/-- Reads the octets of a tag, where a percent sign and two digits write one of any value. Brackets and
commas belong to the tag only where it is `enclosed`. -/
def tagOctets? (enclosed : Bool) : List Spot → Option (List UInt8 × List Spot)
  | [] => some ([], [])
  | s :: rest =>
    if !(isTagChar s.char || (enclosed && [',', '[', ']'].contains s.char)) then some ([], s :: rest)
    else if s.char ≠ '%' then do
      let (octets, rest) ← tagOctets? enclosed rest
      return (s.char.toNat.toUInt8 :: octets, rest)
    else match rest with
      | a :: b :: rest => do
        let octet := 16 * (← Json.hexValue? a.char) + (← Json.hexValue? b.char)
        let (octets, rest) ← tagOctets? enclosed rest
        return (octet.toUInt8 :: octets, rest)
      | _ => none

def tagText? (enclosed : Bool) (spots : List Spot) : Option (String × List Spot) := do
  let (octets, rest) ← tagOctets? enclosed spots
  return (← String.fromUTF8? ⟨octets.toArray⟩, rest)

/-- Reads a tag after its sign. A tag in angles has no handle, and neither has the sign alone. -/
def tagParts? (spots : List Spot) : Option ((String × String) × List Spot) :=
  if charAt 0 spots = '<' then do
    let (suffix, rest) ← tagText? true (spots.drop 1)
    if suffix.isEmpty ∨ charAt 0 rest ≠ '>' then none else some (("", suffix), rest.drop 1)
  else
    let (word, rest) := name spots
    if charAt 0 rest = '!' then do
      let (suffix, rest) ← tagText? false (rest.drop 1)
      if suffix.isEmpty then none else some ((String.ofList ('!' :: word ++ ['!']), suffix), rest)
    else do
      let (suffix, rest) ← tagText? false spots
      return (if suffix.isEmpty then ("", "!") else ("!", suffix), rest)

/-- Reads a tag with the gap after it. Inside brackets a comma will do. -/
def tag? (flow : Bool) (spots : List Spot) : Option ((String × String) × List Spot) := do
  let (parts, rest) ← tagParts? spots
  let next := charAt 0 rest
  if isGap next || (flow && next = ',') then some (parts, rest) else none

end JupyterWorkloads.Yaml
