import JupyterWorkloads.Child.Basic
import JupyterWorkloads.Defaults
import JupyterWorkloads.Json.Text
import JupyterWorkloads.KernelSpec
import JupyterWorkloads.Labels

/-! The child of a kernel spec: a config map with the document from which gateways start kernels. -/
namespace JupyterWorkloads.KernelSpec

def name (k : KernelSpec) : String := k.metadata.anyName

def ns (k : KernelSpec) : String := k.metadata.ns.getD ""

/-- The literal variables by name; the last value of a name counts. -/
def literals (env : List EnvVar) : StringTable :=
  Table.ofList (env.filterMap fun var => var.value.map (var.name, ·))

def textMember (name : String) (value : Option String) : Member :=
  .optional name (value.filter fun s => !s.isEmpty)

/-- The launch document. Its members have a fixed order, and what is empty is left out. -/
def document (k : KernelSpec) (d : Defaults) : Json :=
  let image := (k.spec.image.filter fun s => !s.isEmpty).getD d.kernelImage
  let given := literals (k.spec.env.getD [])
  .record [
    textMember "language" k.spec.language,
    textMember "display_name" k.spec.displayName,
    ⟨"metadata", some (.obj [
      ("process_proxy", .obj [("class_name",
        .str "enterprise_gateway.services.processproxies.k8s.KubernetesProcessProxy")]),
      ("config", .obj [("image_name", .str image)])])⟩,
    .optional "argv" (k.spec.command.filter fun argv => !argv.isEmpty),
    .optional "env" (if given.rows.isEmpty then none else some given)]

def documentText (k : KernelSpec) (d : Defaults) : String := (k.document d).text

def documentKey : String := "kernel.json"

def configMap (k : KernelSpec) (d : Defaults) : ConfigMap where
  data := some (Table.ofList [(documentKey, k.documentText d)])
  immutable := none
  metadata := Labels.childMetadata Label.kernelSpec k.ns k.name

def children (k : KernelSpec) (d : Defaults) : ChildSet := .ofList [.configMap (k.configMap d)]

end JupyterWorkloads.KernelSpec
