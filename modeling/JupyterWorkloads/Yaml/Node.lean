import JupyterWorkloads.Table

/-! The nodes of a YAML document before their tags and aliases are resolved. Anchors and aliases are
labels: names as they are written, numbers after the names have been told apart. -/
namespace JupyterWorkloads.Yaml

/-- What stands before a node. -/
structure Properties (α : Type) where
  anchor : Option α
  tag : Option String
  deriving DecidableEq, Inhabited

def Properties.none {α : Type} : Properties α := ⟨.none, .none⟩

inductive Node (α : Type) where
  | alias (label : α)
  /-- A scalar, plain or marked as text by quotes or a bar. -/
  | scalar (properties : Properties α) (plain : Bool) (text : String)
  | sequence (properties : Properties α) (items : List (Node α))
  | mapping (properties : Properties α) (entries : List (Node α × Node α))
  deriving Inhabited

namespace Node

/-- The node that stands where nothing is written. -/
def empty {α : Type} : Node α := .scalar .none true ""

mutual

/-- How many marks a node is made of: one for a scalar, two and its content for a collection. -/
def weight {α : Type} : Node α → Nat
  | .alias _ | .scalar .. => 1
  | .sequence _ items => weightItems items + 2
  | .mapping _ entries => weightEntries entries + 2

def weightItems {α : Type} : List (Node α) → Nat
  | [] => 0
  | item :: rest => weight item + weightItems rest

def weightEntries {α : Type} : List (Node α × Node α) → Nat
  | [] => 0
  | (key, value) :: rest => weight key + weight value + weightEntries rest

end

/-- The numbers of the names of anchors. -/
abbrev Names := List (String × Nat)

/-- Gives an anchor the number of names before it. A name that comes again gets a new number. -/
def Properties.number (properties : Properties String) (names : Names) : Properties Nat × Names :=
  match properties.anchor with
  | .none => (⟨.none, properties.tag⟩, names)
  | some name =>
    (⟨some names.length, properties.tag⟩, Rows.insert name names.length names)

mutual

/-- Numbers the anchors in the order they are written. An alias means the last anchor of its name
before it. -/
def number? (names : Names) : Node String → Option (Node Nat × Names)
  | .alias name => (Rows.get? name names).map fun label => (.alias label, names)
  | .scalar properties plain text =>
    let (properties, names) := Properties.number properties names
    some (.scalar properties plain text, names)
  | .sequence properties items => do
    let (properties, names) := Properties.number properties names
    let (items, names) ← numberItems? names items
    return (.sequence properties items, names)
  | .mapping properties entries => do
    let (properties, names) := Properties.number properties names
    let (entries, names) ← numberEntries? names entries
    return (.mapping properties entries, names)

def numberItems? (names : Names) : List (Node String) → Option (List (Node Nat) × Names)
  | [] => some ([], names)
  | item :: rest => do
    let (item, names) ← number? names item
    let (rest, names) ← numberItems? names rest
    return (item :: rest, names)

def numberEntries? (names : Names) :
    List (Node String × Node String) → Option (List (Node Nat × Node Nat) × Names)
  | [] => some ([], names)
  | (key, value) :: rest => do
    let (key, names) ← number? names key
    let (value, names) ← number? names value
    let (rest, names) ← numberEntries? names rest
    return ((key, value) :: rest, names)

end

def anchor {α : Type} (properties : Properties α) (node : Node α) : List (α × Node α) :=
  match properties.anchor with
  | .none => []
  | some label => [(label, node)]

mutual

def anchors {α : Type} : Node α → List (α × Node α)
  | .alias _ => []
  | .scalar properties plain text => anchor properties (.scalar properties plain text)
  | .sequence properties items =>
    anchor properties (.sequence properties items) ++ anchorsOfItems items
  | .mapping properties entries =>
    anchor properties (.mapping properties entries) ++ anchorsOfEntries entries

def anchorsOfItems {α : Type} : List (Node α) → List (α × Node α)
  | [] => []
  | item :: rest => anchors item ++ anchorsOfItems rest

def anchorsOfEntries {α : Type} : List (Node α × Node α) → List (α × Node α)
  | [] => []
  | (key, value) :: rest => anchors key ++ anchors value ++ anchorsOfEntries rest

end

end Node

end JupyterWorkloads.Yaml
