import JupyterWorkloads.Reference

/-! Catalogues of references: a fixed list of answers to lookups. The first entry of a lookup answers
it, and a lookup without an entry finds nothing. -/
namespace JupyterWorkloads

inductive CatalogEntry where
  | found (object : Resolved)
  | fails (source : ApiFailure)
  deriving DecidableEq, Inhabited

abbrev Catalog := List (Lookup × CatalogEntry)

def Catalog.resolver (c : Catalog) : Resolver := fun lookup =>
  match Rows.get? lookup c with
  | none => .error (.notFound lookup)
  | some (.found object) => .ok object
  | some (.fails source) => .error (.api lookup source)

end JupyterWorkloads
