/-! The tokens of a YAML text: what its characters and its layout say. -/
namespace JupyterWorkloads.Yaml

inductive Token where
  | version (major minor : Nat)
  /-- A handle with what it stands for in tags. -/
  | tagHandle (handle stem : String)
  | documentStart
  | documentEnd
  | blockSequence
  | blockMapping
  /-- The end of a block, where the lines are indented less. -/
  | blockEnd
  | flowSequence
  | flowSequenceEnd
  | flowMapping
  | flowMappingEnd
  | blockEntry
  | flowEntry
  | key
  | value
  | alias (name : String)
  | anchor (name : String)
  | tag (handle suffix : String)
  /-- A scalar, plain or marked as text by quotes or a bar. -/
  | scalar (plain : Bool) (text : String)
  deriving DecidableEq, Inhabited

namespace Token

def opens : Token → Bool
  | blockSequence | blockMapping | flowSequence | flowMapping => true
  | _ => false

def closes : Token → Bool
  | blockEnd | flowSequenceEnd | flowMappingEnd => true
  | _ => false

/-- How many collections are open at once, at most, with some open before. -/
def deepest : Nat → List Token → Nat
  | depth, [] => depth
  | depth, token :: rest =>
    max depth (deepest (if token.opens then depth + 1 else if token.closes then depth - 1 else depth) rest)

end Token

end JupyterWorkloads.Yaml
