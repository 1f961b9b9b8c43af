import JupyterWorkloads.Yaml.Value

/-! Typed reading of YAML values. Tags do not count, nothing stands for an empty list and for an empty
table, and the names of members are texts. -/
namespace JupyterWorkloads.Yaml

namespace Value

def untagged : Value → Value
  | .tagged _ v => untagged v
  | v => v

def text? (v : Value) : Option String :=
  match v.untagged with
  | .str s => some s
  | _ => none

def bool? (v : Value) : Option Bool :=
  match v.untagged with
  | .bool b => some b
  | _ => none

def items? (v : Value) : Option (List Value) :=
  match v.untagged with
  | .list items => some items
  | .null => some []
  | _ => none

def listOf? {α : Type} (reader : Value → Option α) (v : Value) : Option (List α) := do
  (← v.items?).mapM reader

/-- The entries of a table by the texts that are their keys. -/
def fields? (v : Value) : Option (List (String × Value)) :=
  match v.untagged with
  | .table entries => entries.mapM fun entry => entry.1.text?.map (·, entry.2)
  | .null => some []
  | _ => none

def texts? (v : Value) : Option (List (String × String)) := do
  (← v.fields?).mapM fun field => field.2.text?.map (field.1, ·)

mutual

/-- Whether a value can be written as JSON: no tags, and texts for keys. -/
def isData : Value → Bool
  | .tagged .. => false
  | .list items => areData items
  | .table entries => areDataEntries entries
  | _ => true

def areData : List Value → Bool
  | [] => true
  | item :: rest => isData item && areData rest

def areDataEntries : List (Value × Value) → Bool
  | [] => true
  | (key, value) :: rest => key.text?.isSome && isData value && areDataEntries rest

end

end Value

abbrev Fields := List (String × Value)

namespace Record

/-- Reads a record that declares the names of its members, each of which may be written once. -/
def declared? (names : List String) (v : Value) : Option Fields := do
  let fields ← v.fields?
  guard (names.all fun name => (fields.filter (·.1 = name)).length ≤ 1)
  return fields

variable {α : Type} (reader : Value → Option α) (fields : Fields) (name : String)

def optional? : Option (Option α) :=
  match fields.lookup name with
  | none | some .null => some none
  | some v => (reader v).map some

def mandatory? : Option α := (fields.lookup name).bind reader

/-- Reads a member that may be absent but not nothing. -/
def defaulted? [Inhabited α] : Option α := ((fields.lookup name).map reader).getD (some default)

def list? : Option (List α) :=
  (optional? (Value.listOf? reader) fields name).map fun items => items.getD []

end Record

end JupyterWorkloads.Yaml
