/-! References to objects as messages show them. -/
namespace JupyterWorkloads

structure ObjectRef where
  kind : String
  version : Option String
  group : Option String
  ns : Option String
  name : String
  deriving DecidableEq, Inhabited

/-- The kind with its group, a blank, and the name behind its namespace. -/
def ObjectRef.display (r : ObjectRef) : String :=
  r.kind ++ (match r.group with
    | some g => "." ++ g
    | none => "") ++ " " ++ (match r.ns with
    | some n => n ++ "/"
    | none => "") ++ r.name

end JupyterWorkloads
