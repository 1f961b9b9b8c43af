import JupyterWorkloads.Text.Decimal
import JupyterWorkloads.Yaml.Property
import JupyterWorkloads.Yaml.Token

/-! Directives: lines before a document that give its version or a handle for its tags. -/
namespace JupyterWorkloads.Yaml

/-- Reads a part of a version, of at most nine digits. -/
def versionPart? (spots : List Spot) : Option (Nat × List Spot) :=
  let digits := spots.takeWhile fun s => s.char.isDigit
  if digits.isEmpty ∨ 9 < digits.length then none
  else some (Text.digitsValue (digits.map Spot.char), spots.drop digits.length)

def version? (spots : List Spot) : Option (Token × List Spot) := do
  let (major, rest) ← versionPart? spots
  if charAt 0 rest ≠ '.' then none
  else
    let (minor, rest) ← versionPart? (rest.drop 1)
    return (.version major minor, rest)

/-- Reads a handle with its two signs, or one sign alone. -/
def handle? (spots : List Spot) : Option (String × List Spot) :=
  if charAt 0 spots ≠ '!' then none
  else
    let (word, rest) := name (spots.drop 1)
    if charAt 0 rest = '!' then some (String.ofList ('!' :: word ++ ['!']), rest.drop 1)
    else if word.isEmpty then some ("!", rest)
    else none

def tagHandle? (spots : List Spot) : Option (Token × List Spot) := do
  let (handle, rest) ← handle? spots
  if !isBlank (charAt 0 rest) then none
  else
    let (stem, rest) ← tagText? true (skipBlanks rest)
    if stem.isEmpty || !isGap (charAt 0 rest) then none else some (.tagHandle handle stem, rest)

/-- Reads a directive after its sign, and the rest of its line. -/
def directive? (spots : List Spot) : Option (Token × List Spot) := do
  let (word, rest) := name spots
  let (token, rest) ←
    if !isGap (charAt 0 rest) then none
    else if word = "YAML".toList then version? (skipBlanks rest)
    else if word = "TAG".toList then tagHandle? (skipBlanks rest)
    else none
  return (token, ← afterLine? rest)

end JupyterWorkloads.Yaml
