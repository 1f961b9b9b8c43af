import JupyterWorkloads.Metadata

/-! Config maps: named texts that pods mount as files. -/
namespace JupyterWorkloads

structure ConfigMap where
  data : Option StringTable
  immutable : Option Bool
  metadata : ObjectMeta
  deriving DecidableEq, Inhabited

instance : Codec ConfigMap where
  encode x := .record [
    .required "apiVersion" "v1",
    .optional "data" x.data,
    .optional "immutable" x.immutable,
    .required "kind" "ConfigMap",
    .required "metadata" x.metadata]
  decode v := do
    let fields ← v.fields?
    Record.constant? fields "apiVersion" "v1"
    Record.constant? fields "kind" "ConfigMap"
    return {
      data := ← Record.optional? fields "data"
      immutable := ← Record.optional? fields "immutable"
      metadata := ← Record.required? fields "metadata" }

end JupyterWorkloads
