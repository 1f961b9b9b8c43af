import JupyterWorkloads.Group
import JupyterWorkloads.Pod.Basic

/-! Kernel templates: pod templates that kernels share by name. -/
namespace JupyterWorkloads

structure KernelTemplate.Spec where
  template : Option PodTemplate
  deriving DecidableEq, Inhabited

instance KernelTemplate.Spec.instCodec : Codec KernelTemplate.Spec where
  encode x := .record [
    .optional "template" x.template]
  decode v := do
    let fields ← Record.declared? 0 ["template"] v
    return {
      template := ← Record.optional? fields "template" }

structure KernelTemplate where
  metadata : ObjectMeta
  spec : KernelTemplate.Spec
  deriving DecidableEq, Inhabited

instance : Codec KernelTemplate where
  encode x := .record [
    .required "apiVersion" apiVersion,
    .required "kind" "JupyterKernelTemplate",
    .required "metadata" x.metadata,
    .required "spec" x.spec]
  decode v := do
    let fields ← Record.declared? 2 ["metadata", "spec"] v
    return {
      metadata := ← Record.mandatory? fields "metadata"
      spec := ← Record.mandatory? fields "spec" }

end JupyterWorkloads
