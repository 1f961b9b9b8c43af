import JupyterWorkloads.Json.Basic

/-! Drift between a live value and the desired one. Only what the desired value sets is compared:
members the live object has besides are ignored, lists compare item by item, and an empty desired
collection also holds where the live value has nothing. -/
namespace JupyterWorkloads.Drift

mutual

/-- Nothing but nulls, empty lists and objects of the same form. -/
def isBlank : Json → Bool
  | .null => true
  | .arr items => items.isEmpty
  | .obj fields => fieldsBlank fields
  | _ => false

def fieldsBlank : List (String × Json) → Bool
  | [] => true
  | (_, value) :: rest => isBlank value && fieldsBlank rest

end

/-- Equal values that are neither null nor collections. Numbers of the two sorts never agree. -/
def sameScalar : Json → Json → Bool
  | .bool a, .bool b => a == b
  | .int a, .int b => a == b
  | .float a, .float b => a.numEq b
  | .str a, .str b => a == b
  | _, _ => false

mutual

/-- Whether every field that the second value sets holds the same value in the first. -/
def contains : Json → Json → Bool
  | _, .null => true
  | .obj live, .obj desired => containsFields live desired
  | .arr live, .arr desired => containsItems live desired
  | .null, desired => isBlank desired
  | live, desired => sameScalar live desired

def containsFields (live : List (String × Json)) : List (String × Json) → Bool
  | [] => true
  | (name, desired) :: rest =>
    (match Rows.get? name live with
      | some value => contains value desired
      | none => isBlank desired) && containsFields live rest

def containsItems : List Json → List Json → Bool
  | [], [] => true
  | live :: lives, desired :: rest => contains live desired && containsItems lives rest
  | _, _ => false

end

end JupyterWorkloads.Drift
