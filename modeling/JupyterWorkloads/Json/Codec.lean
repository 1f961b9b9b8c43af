import JupyterWorkloads.Json.Basic

/-! Writing typed values as JSON and reading them back. A record writes the members that have a
value and ignores unknown members when it is read; a null member counts as absent. -/
namespace JupyterWorkloads

/-- A written form of a type and its reader. -/
class Codec (α : Type) where
  encode : α → Json
  decode : Json → Option α

/-- Reading undoes writing, and no value is written as null. -/
class LawfulCodec (α : Type) [Codec α] : Prop where
  decode_encode : ∀ a : α, Codec.decode (Codec.encode a) = some a
  encode_ne_null : ∀ a : α, Codec.encode a ≠ .null

export Codec (encode decode)

instance : Codec String where
  encode := .str
  decode := Json.str?

instance : Codec Bool where
  encode := .bool
  decode := Json.bool?

instance : Codec Int32 where
  encode n := .int n.toInt
  decode
    | .int n => if Int32.minValue.toInt ≤ n ∧ n ≤ Int32.maxValue.toInt then some (Int32.ofInt n) else none
    | _ => none

instance : Codec Int64 where
  encode n := .int n.toInt
  decode
    | .int n => if Int64.minValue.toInt ≤ n ∧ n ≤ Int64.maxValue.toInt then some (Int64.ofInt n) else none
    | _ => none

instance {α : Type} [Codec α] : Codec (List α) where
  encode items := .arr (items.map encode)
  decode
    | .arr items => items.mapM decode
    | _ => none

instance : Codec StringTable where
  encode t := .obj (t.rows.map fun row => (row.1, .str row.2))
  decode
    | .obj fields => do
      let rows ← fields.mapM fun field => field.2.str?.map (field.1, ·)
      return Table.ofList rows
    | _ => none

/-- A named member of a record, with its written value if it has one. -/
structure Member where
  name : String
  value : Option Json

namespace Member

variable {α : Type} [Codec α]

/-- A member that is written when it has a value. -/
def optional (name : String) (value : Option α) : Member := ⟨name, value.map encode⟩

def required (name : String) (value : α) : Member := ⟨name, some (encode value)⟩

def rows : List Member → Json.Fields
  | [] => []
  | ⟨_, none⟩ :: rest => rows rest
  | ⟨name, some value⟩ :: rest => (name, value) :: rows rest

theorem get?_rows_cons (key : String) (m : Member) (rest : List Member) :
    Rows.get? key (rows (m :: rest)) =
      if m.name = key then m.value.or (Rows.get? key (rows rest))
      else Rows.get? key (rows rest) := by
  obtain ⟨name, value⟩ := m
  cases value with
  | none => simp [rows]
  | some v => simp [rows, Rows.get?_cons]

end Member

def Json.record (members : List Member) : Json := .obj (Member.rows members)

namespace Record

variable {α β : Type} [Codec α]

/-- The values of a member in the order they are written. -/
def occurrences (fields : Json.Fields) (name : String) : List Json :=
  (fields.filter fun field => field.1 = name).map Prod.snd

/-- Reads each value of a member. The last one counts. -/
def read? (reader : Json → Option β) (fields : Json.Fields) (name : String) : Option (Option β) :=
  ((occurrences fields name).mapM reader).map List.getLast?

/-- Reads a value where null stands for nothing. -/
def nullable? (reader : Json → Option β) : Json → Option (Option β)
  | .null => some none
  | v => (reader v).map some

def optional? (fields : Json.Fields) (name : String) : Option (Option α) :=
  (read? (nullable? decode) fields name).map Option.join

/-- Reads a member that is always written and takes its default when absent. -/
def required? [Inhabited α] (fields : Json.Fields) (name : String) : Option α :=
  (optional? fields name).map fun value => value.getD default

def mandatory? (fields : Json.Fields) (name : String) : Option α := (read? decode fields name).join

/-- Holds when the member is absent or has exactly the given text. -/
def constant? (fields : Json.Fields) (name expected : String) : Option Unit :=
  if (occurrences fields name).all (· = .str expected) then some () else none

/-- Reads a member that takes its default when absent but may not be null. -/
def defaulted? [Inhabited α] (fields : Json.Fields) (name : String) : Option α :=
  (read? decode fields name).map fun value => value.getD default

/-- The members of a record that declares their names, each of which may be written once. Such a
record may also be written as the list of its members in the order they are declared; the last ones may
be left out, down to `least` members. -/
def declared? (least : Nat) (names : List String) : Json → Option Json.Fields
  | .obj fields =>
    if names.all fun name => (occurrences fields name).length ≤ 1 then some fields else none
  | .arr items =>
    if least ≤ items.length ∧ items.length ≤ names.length then some (names.zip items) else none
  | _ => none

end Record

end JupyterWorkloads
