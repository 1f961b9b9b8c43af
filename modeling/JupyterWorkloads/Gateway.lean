import JupyterWorkloads.Group
import JupyterWorkloads.WorkloadStatus
import JupyterWorkloads.Pod.Basic

/-! Gateways: servers that start kernels as pods and offer them to notebooks. -/
namespace JupyterWorkloads

/-- What a gateway offers and how it runs. `kernels` names kernel specs in its namespace. -/
structure Gateway.Spec where
  kernels : Option (List String)
  defaultKernel : Option String
  cullIdleTimeout : Option Int32
  cullInterval : Option Int32
  resources : Option ResourceRequirements
  image : Option String
  clusterRole : Option String
  deriving DecidableEq, Inhabited

instance Gateway.Spec.instCodec : Codec Gateway.Spec where
  encode x := .record [
    .optional "clusterRole" x.clusterRole,
    .optional "cullIdleTimeout" x.cullIdleTimeout,
    .optional "cullInterval" x.cullInterval,
    .optional "defaultKernel" x.defaultKernel,
    .optional "image" x.image,
    .optional "kernels" x.kernels,
    .optional "resources" x.resources]
  decode v := do
    let fields ← Record.declared? 0
      ["kernels", "defaultKernel", "cullIdleTimeout", "cullInterval", "resources", "image",
        "clusterRole"] v
    return {
      kernels := ← Record.optional? fields "kernels"
      defaultKernel := ← Record.optional? fields "defaultKernel"
      cullIdleTimeout := ← Record.optional? fields "cullIdleTimeout"
      cullInterval := ← Record.optional? fields "cullInterval"
      resources := ← Record.optional? fields "resources"
      image := ← Record.optional? fields "image"
      clusterRole := ← Record.optional? fields "clusterRole" }

structure Gateway where
  metadata : ObjectMeta
  spec : Gateway.Spec
  status : Option WorkloadStatus
  deriving DecidableEq, Inhabited

instance : Codec Gateway where
  encode x := .record [
    .required "apiVersion" apiVersion,
    .required "kind" "JupyterGateway",
    .required "metadata" x.metadata,
    .required "spec" x.spec,
    .optional "status" x.status]
  decode v := do
    let fields ← Record.declared? 3 ["metadata", "spec", "status"] v
    return {
      metadata := ← Record.mandatory? fields "metadata"
      spec := ← Record.mandatory? fields "spec"
      status := ← Record.optional? fields "status" }

end JupyterWorkloads
