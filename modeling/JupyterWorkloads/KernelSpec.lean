import JupyterWorkloads.Group
import JupyterWorkloads.Pod.Basic

/-! Kernel specs: how a gateway starts kernels of one language. -/
namespace JupyterWorkloads

structure KernelSpec.Spec where
  language : Option String
  displayName : Option String
  image : Option String
  env : Option (List EnvVar)
  command : Option (List String)
  template : Option PodTemplate
  deriving DecidableEq, Inhabited

instance KernelSpec.Spec.instCodec : Codec KernelSpec.Spec where
  encode x := .record [
    .optional "command" x.command,
    .optional "displayName" x.displayName,
    .optional "env" x.env,
    .optional "image" x.image,
    .optional "language" x.language,
    .optional "template" x.template]
  decode v := do
    let fields ← Record.declared? 0
      ["language", "displayName", "image", "env", "command", "template"] v
    return {
      language := ← Record.optional? fields "language"
      displayName := ← Record.optional? fields "displayName"
      image := ← Record.optional? fields "image"
      env := ← Record.optional? fields "env"
      command := ← Record.optional? fields "command"
      template := ← Record.optional? fields "template" }

structure KernelSpec where
  metadata : ObjectMeta
  spec : KernelSpec.Spec
  deriving DecidableEq, Inhabited

instance : Codec KernelSpec where
  encode x := .record [
    .required "apiVersion" apiVersion,
    .required "kind" "JupyterKernelSpec",
    .required "metadata" x.metadata,
    .required "spec" x.spec]
  decode v := do
    let fields ← Record.declared? 2 ["metadata", "spec"] v
    return {
      metadata := ← Record.mandatory? fields "metadata"
      spec := ← Record.mandatory? fields "spec" }

end JupyterWorkloads
