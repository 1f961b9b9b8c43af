import JupyterWorkloads.Group
import JupyterWorkloads.WorkloadStatus
import JupyterWorkloads.Pod.Basic

/-! Kernels: running instances, made from a template of their own or a shared one. -/
namespace JupyterWorkloads

structure Kernel.TemplateRef where
  name : String
  deriving DecidableEq, Inhabited

instance Kernel.TemplateRef.instCodec : Codec Kernel.TemplateRef where
  encode x := .record [
    .required "name" x.name]
  decode v := do
    let fields ← Record.declared? 1 ["name"] v
    return {
      name := ← Record.mandatory? fields "name" }

/-- The identity of a kernel and where its pod template comes from; its own template comes first. -/
structure Kernel.Spec where
  kernelId : Option String
  templateRef : Option Kernel.TemplateRef
  template : Option PodTemplate
  deriving DecidableEq, Inhabited

instance Kernel.Spec.instCodec : Codec Kernel.Spec where
  encode x := .record [
    .optional "kernelId" x.kernelId,
    .optional "template" x.template,
    .optional "templateRef" x.templateRef]
  decode v := do
    let fields ← Record.declared? 0 ["kernelId", "templateRef", "template"] v
    return {
      kernelId := ← Record.optional? fields "kernelId"
      templateRef := ← Record.optional? fields "templateRef"
      template := ← Record.optional? fields "template" }

structure Kernel where
  metadata : ObjectMeta
  spec : Kernel.Spec
  status : Option WorkloadStatus
  deriving DecidableEq, Inhabited

instance : Codec Kernel where
  encode x := .record [
    .required "apiVersion" apiVersion,
    .required "kind" "JupyterKernel",
    .required "metadata" x.metadata,
    .required "spec" x.spec,
    .optional "status" x.status]
  decode v := do
    let fields ← Record.declared? 3 ["metadata", "spec", "status"] v
    return {
      metadata := ← Record.mandatory? fields "metadata"
      spec := ← Record.mandatory? fields "spec"
      status := ← Record.optional? fields "status" }

end JupyterWorkloads
