import JupyterWorkloads.Yaml.Document
import JupyterWorkloads.Yaml.Layout
import JupyterWorkloads.Yaml.Value

/-! Reading YAML: characters give tokens, tokens give nodes, and nodes give values. -/
namespace JupyterWorkloads.Yaml

/-- The values of the documents in a text. One that is nested deeper than any value is read no
further. -/
def values? (text : String) : Option (List Value) := do
  let tokens ← tokens? text
  guard (Token.deepest 0 tokens ≤ Value.greatestDepth)
  (← documents? tokens).mapM Value.ofDocument?

end JupyterWorkloads.Yaml
