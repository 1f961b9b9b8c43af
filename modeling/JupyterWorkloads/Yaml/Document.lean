import JupyterWorkloads.Yaml.Node
import JupyterWorkloads.Yaml.Token

/-! The documents that the tokens of a text say. -/
namespace JupyterWorkloads.Yaml

inductive Place where
  | block
  /-- The key or the value of an entry, where a sequence need not be indented. -/
  | entry
  | flow
  deriving DecidableEq, Inhabited

/-- What handles stand for in tags, the first one of a name counting. -/
abbrev Handles := List (String × String)

namespace Handles

def common : Handles := [("!", "!"), ("!!", "tag:yaml.org,2002:")]

def tag? (handles : Handles) (handle suffix : String) : Option String :=
  if handle.isEmpty then some suffix else (handles.lookup handle).map (· ++ suffix)

end Handles

def properties? (handles : Handles) : List Token → Option (Properties String × List Token)
  | .anchor name :: .tag handle suffix :: rest | .tag handle suffix :: .anchor name :: rest =>
    (handles.tag? handle suffix).map fun tag => (⟨some name, some tag⟩, rest)
  | .anchor name :: rest => some (⟨some name, none⟩, rest)
  | .tag handle suffix :: rest => (handles.tag? handle suffix).map fun tag => (⟨none, some tag⟩, rest)
  | rest => some (.none, rest)

/-- The properties of a scalar that is written. The sign of a tag alone says nothing there. -/
def Properties.ofScalar (properties : Properties String) : Properties String :=
  { properties with tag := properties.tag.filter (· ≠ "!") }

def separated? (first : Bool) : List Token → Option (List Token)
  | .flowEntry :: rest => if first then some (.flowEntry :: rest) else some rest
  | rest => if first then some rest else none

def nextIn (tokens : List Token) (rest : List Token) : Bool := rest.head?.any tokens.contains

/-- The tokens before which an entry of a block may be left empty. -/
def entryEnds : List Token := [.key, .value, .blockEnd]

mutual

/-- Reads a node; `fuel` bounds the work. -/
def node? (handles : Handles) (place : Place) : Nat → List Token → Option (Node String × List Token)
  | 0, _ => none
  | fuel + 1, tokens =>
    match tokens with
    | .alias name :: rest => some (.alias name, rest)
    | _ => do
      let (properties, rest) ← properties? handles tokens
      content? handles place properties fuel rest

def content? (handles : Handles) (place : Place) (properties : Properties String) :
    Nat → List Token → Option (Node String × List Token)
  | 0, _ => none
  | fuel + 1, tokens =>
    let isBlock : Bool := place ≠ .flow
    match tokens with
    | .scalar plain text :: rest => some (.scalar properties.ofScalar plain text, rest)
    | .flowSequence :: rest => do
      let (items, rest) ← flowItems? handles true fuel rest
      return (.sequence properties items, rest)
    | .flowMapping :: rest => do
      let (entries, rest) ← flowEntries? handles true fuel rest
      return (.mapping properties entries, rest)
    | token :: rest =>
      if place = .entry ∧ token = .blockEntry then do
        let (items, rest) ← looseItems? handles fuel tokens
        return (.sequence properties items, rest)
      else if isBlock ∧ token = .blockSequence then do
        let (items, rest) ← items? handles fuel rest
        return (.sequence properties items, rest)
      else if isBlock ∧ token = .blockMapping then do
        let (entries, rest) ← entries? handles fuel rest
        return (.mapping properties entries, rest)
      else if properties = .none then none
      else some (.scalar properties true "", tokens)
    | [] => if properties = .none then none else some (.scalar properties true "", [])

/-- Reads a node, or nothing before one of the tokens. -/
def optional? (handles : Handles) (place : Place) (ends : List Token) :
    Nat → List Token → Option (Node String × List Token)
  | 0, _ => none
  | fuel + 1, tokens =>
    if nextIn ends tokens then some (.empty, tokens) else node? handles place fuel tokens

/-- Reads the items of a sequence that is indented. -/
def items? (handles : Handles) : Nat → List Token → Option (List (Node String) × List Token)
  | 0, _ => none
  | fuel + 1, tokens =>
    match tokens with
    | .blockEnd :: rest => some ([], rest)
    | .blockEntry :: rest => do
      let (item, rest) ← optional? handles .block [.blockEntry, .blockEnd] fuel rest
      let (items, rest) ← items? handles fuel rest
      return (item :: items, rest)
    | _ => none

/-- Reads the items of a sequence that is not indented. -/
def looseItems? (handles : Handles) : Nat → List Token → Option (List (Node String) × List Token)
  | 0, _ => none
  | fuel + 1, tokens =>
    match tokens with
    | .blockEntry :: rest => do
      let (item, rest) ← optional? handles .block (.blockEntry :: entryEnds) fuel rest
      let (items, rest) ← looseItems? handles fuel rest
      return (item :: items, rest)
    | _ => some ([], tokens)

def entries? (handles : Handles) :
    Nat → List Token → Option (List (Node String × Node String) × List Token)
  | 0, _ => none
  | fuel + 1, tokens =>
    match tokens with
    | .blockEnd :: rest => some ([], rest)
    | .key :: rest => do
      let (key, rest) ← optional? handles .entry entryEnds fuel rest
      let (value, rest) ← entryValue? handles .entry entryEnds fuel rest
      let (entries, rest) ← entries? handles fuel rest
      return ((key, value) :: entries, rest)
    | _ => none

def entryValue? (handles : Handles) (place : Place) (ends : List Token) :
    Nat → List Token → Option (Node String × List Token)
  | 0, _ => none
  | fuel + 1, tokens =>
    match tokens with
    | .value :: rest => optional? handles place ends fuel rest
    | _ => some (.empty, tokens)

/-- Reads the items up to a bracket. An item that is marked as a key is a mapping of one entry; where the
key is left empty, the token after the mark is lost. -/
def flowItems? (handles : Handles) (first : Bool) :
    Nat → List Token → Option (List (Node String) × List Token)
  | 0, _ => none
  | fuel + 1, tokens =>
    match tokens with
    | .flowSequenceEnd :: rest => some ([], rest)
    | _ => do
      match ← separated? first tokens with
      | .flowSequenceEnd :: rest => some ([], rest)
      | .key :: rest => do
        let (key, rest) ←
          if nextIn [.value, .flowEntry, .flowSequenceEnd] rest then some (.empty, rest.drop 1)
          else node? handles .flow fuel rest
        let (value, rest) ←
          entryValue? handles .flow [.flowEntry, .flowSequenceEnd] fuel rest
        let (items, rest) ← flowItems? handles false fuel rest
        return (.mapping .none [(key, value)] :: items, rest)
      | rest => do
        let (item, rest) ← node? handles .flow fuel rest
        let (items, rest) ← flowItems? handles false fuel rest
        return (item :: items, rest)

def flowEntries? (handles : Handles) (first : Bool) :
    Nat → List Token → Option (List (Node String × Node String) × List Token)
  | 0, _ => none
  | fuel + 1, tokens =>
    match tokens with
    | .flowMappingEnd :: rest => some ([], rest)
    | _ => do
      match ← separated? first tokens with
      | .flowMappingEnd :: rest => some ([], rest)
      | .key :: rest => do
        let (key, rest) ← optional? handles .flow [.value, .flowEntry, .flowMappingEnd] fuel rest
        let (value, rest) ← entryValue? handles .flow [.flowEntry, .flowMappingEnd] fuel rest
        let (entries, rest) ← flowEntries? handles false fuel rest
        return ((key, value) :: entries, rest)
      | rest => do
        let (key, rest) ← node? handles .flow fuel rest
        let (entries, rest) ← flowEntries? handles false fuel rest
        return ((key, .empty) :: entries, rest)

end

/-- Reads the directives before a document: at most one version, which must be known, and each handle
once. -/
def directives? (hasVersion : Bool) (handles : Handles) : List Token → Option (Handles × List Token)
  | .version major minor :: rest =>
    if hasVersion ∨ major ≠ 1 ∨ (minor ≠ 1 ∧ minor ≠ 2) then none else directives? true handles rest
  | .tagHandle handle stem :: rest =>
    if (handles.lookup handle).isSome then none
    else directives? hasVersion ((handle, stem) :: handles) rest
  | rest => some (handles ++ .common, rest)

/-- Whether a document that has begun is empty. -/
def endsDocument : List Token → Bool
  | [] | .version .. :: _ | .tagHandle .. :: _ | .documentStart :: _ | .documentEnd :: _ => true
  | _ => false

/-- Reads a document. Only the first one need not be marked. -/
def document? (first : Bool) (fuel : Nat) (tokens : List Token) :
    Option (Node String × List Token) := do
  if first && (tokens.head? = some .documentEnd || !endsDocument tokens) then
    node? .common .block fuel tokens
  else
    let (handles, rest) ← directives? false [] tokens
    match rest with
    | .documentStart :: rest =>
      if endsDocument rest then some (.empty, rest) else node? handles .block fuel rest
    | _ => none

/-- Reads documents to the end; `fuel` bounds their number and their size. -/
def documentsFrom? (first : Bool) : Nat → List Token → Option (List (Node String))
  | 0, _ => none
  | fuel + 1, tokens => do
    let tokens := if first then tokens else tokens.dropWhile (· = .documentEnd)
    if tokens.isEmpty then return []
    let (node, rest) ← document? first fuel tokens
    return node :: (← documentsFrom? false fuel rest)

/-- The documents of a text of tokens. A token is read in at most four steps. -/
def documents? (tokens : List Token) : Option (List (Node String)) :=
  documentsFrom? true (4 * tokens.length + 4) tokens

end JupyterWorkloads.Yaml
