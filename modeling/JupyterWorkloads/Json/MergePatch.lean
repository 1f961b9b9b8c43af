import JupyterWorkloads.Json.Basic

/-! Merge patches: an object patch changes the members it names, a null removes one, and any other
patch replaces the whole value. -/
namespace JupyterWorkloads.Json

mutual

def mergePatch (target : Json) : Json → Json
  | .obj patch => .obj (mergeFields (target.fields?.getD []) patch)
  | other => other

def mergeFields (fields : List (String × Json)) : List (String × Json) → List (String × Json)
  | [] => fields
  | (name, .null) :: rest => mergeFields (Rows.erase name fields) rest
  | (name, value) :: rest =>
    mergeFields (Rows.insert name (mergePatch ((Rows.get? name fields).getD .null) value) fields) rest

end

end JupyterWorkloads.Json
