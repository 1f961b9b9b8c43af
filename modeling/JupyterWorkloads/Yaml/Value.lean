import JupyterWorkloads.Yaml.Node
import JupyterWorkloads.Yaml.Number

/-! The values of YAML documents. A mapping has a key once, whatever the order of its entries; a tag of the
writer's own is kept, and the tags of the language say how a scalar is read. -/
namespace JupyterWorkloads.Yaml

inductive Value where
  | null
  | bool (value : Bool)
  | int (value : Int)
  | real (value : Real)
  | str (value : String)
  | list (items : List Value)
  | table (entries : List (Value × Value))
  | tagged (tag : String) (value : Value)
  deriving Inhabited

namespace Value

mutual

/-- Equality of keys. The order of the entries of a table does not count. -/
def same : Value → Value → Bool
  | .null, .null => true
  | .bool a, .bool b => a = b
  | .int a, .int b => a = b
  | .real a, .real b => a.numEq b
  | .str a, .str b => a = b
  | .list as, .list bs => sameItems as bs
  | .table as, .table bs => as.length = bs.length && sameEntries as bs
  | .tagged s a, .tagged t b => s = t && same a b
  | _, _ => false

def sameItems : List Value → List Value → Bool
  | [], [] => true
  | a :: as, b :: bs => same a b && sameItems as bs
  | _, _ => false

def sameEntries : List (Value × Value) → List (Value × Value) → Bool
  | [], _ => true
  | (k, a) :: as, others =>
    (others.any fun other => same k other.1 && same a other.2) && sameEntries as others

end

/-- The value of a plain scalar without a tag, unless it writes an integer too large to be stored. -/
def ofPlain? (text : String) : Option Value :=
  let cs := text.toList
  let asReal :=
    if isZeroPadded cs then .str text
    else match real? cs with
      | some x => .real x
      | none => .str text
  if ["", "~", "null", "Null", "NULL"].contains text then some .null
  else if ["true", "True", "TRUE"].contains text then some (.bool true)
  else if ["false", "False", "FALSE"].contains text then some (.bool false)
  else match integer? cs with
    | some n =>
      if isStored n then some (.int n) else if isOversized n then none else some asReal
    | none => some asReal

/-- The value of a text under a tag of the language. Texts that do not fit the tag are refused. -/
def ofTagged? (tag text : String) : Option Value :=
  match tag with
  | "tag:yaml.org,2002:null" => if ["~", "null", "Null", "NULL"].contains text then some .null else none
  | "tag:yaml.org,2002:bool" =>
    (ofPlain? text).filter fun
      | .bool _ => true
      | _ => false
  | "tag:yaml.org,2002:int" => ((integer? text.toList).filter isStored).map .int
  | "tag:yaml.org,2002:float" => (real? text.toList).map .real
  | _ => some (.str text)

def withoutSign (tag : String) : String :=
  match tag.toList with
  | '!' :: c :: rest => String.ofList (c :: rest)
  | _ => tag

/-- The tag that is kept with a value, if it is one of the writer's own. -/
def ownTag? (tag : Option String) : Option String :=
  (tag.filter (·.startsWith "!")).map fun tag => withoutSign (withoutSign tag)

def ofScalar? (tag : Option String) (plain : Bool) (text : String) : Option Value :=
  let untagged := if plain then ofPlain? text else some (.str text)
  match tag, ownTag? tag with
  | _, some own => untagged.map (.tagged own)
  | some tag, none => ofTagged? tag text
  | none, none => untagged

/-- A value under its tag, where tags of the language say nothing. -/
def ofCollection (tag : Option String) (v : Value) : Value :=
  match ownTag? tag with
  | some own => .tagged own v
  | none => v

def hasRepeatedKey : List (Value × Value) → Bool
  | [] => false
  | (key, _) :: rest => (rest.any fun entry => same key entry.1) || hasRepeatedKey rest

/-- How deep collections may be nested, aliases counting as what they stand for. -/
def greatestDepth : Nat := 128

/-- How many aliases may be followed for each mark in a document. -/
def aliasesPerMark : Nat := 100

/-- Takes one alias from those that may be followed, and gives the node it stands for. -/
def follow? (anchors : List (Nat × Node Nat)) : Node Nat → StateT Nat Option (Node Nat)
  | .alias label => do
    let left ← get
    guard (0 < left)
    set (left - 1)
    anchors.lookup label
  | node => pure node

/-- The value of a node whose depth is less than the first number. Of the anchors with a label the first
one counts. -/
def ofNode (anchors : List (Nat × Node Nat)) : Nat → Node Nat → StateT Nat Option Value
  | 0, _ => failure
  | depth + 1, node => do
    match ← follow? anchors node with
    | .alias _ => failure
    | .scalar properties plain text => ofScalar? properties.tag plain text
    | .sequence properties items => do
      guard (0 < depth)
      return ofCollection properties.tag (.list (← items.mapM fun item => ofNode anchors depth item))
    | .mapping properties entries => do
      guard (0 < depth)
      let entries ← entries.mapM fun (key, value) => do
        return (← ofNode anchors depth key, ← ofNode anchors depth value)
      guard !hasRepeatedKey entries
      return ofCollection properties.tag (.table entries)

/-- The value of a document. Of the anchors with a number the last one counts. -/
def ofDocument? (document : Node String) : Option Value := do
  let (node, _) ← document.number? []
  let (v, _) ← (ofNode node.anchors.reverse (greatestDepth + 1) node).run (aliasesPerMark * node.weight)
  return v

end Value

end JupyterWorkloads.Yaml
