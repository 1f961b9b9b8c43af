import JupyterWorkloads.Child.Basic
import JupyterWorkloads.Kernel
import JupyterWorkloads.Pod.Completion
import JupyterWorkloads.Reference

/-! The child of a kernel: a deployment from its pod template, labelled with the id of the kernel. The
id is the one of the spec, or else the one that the template sets for its first container. -/
namespace JupyterWorkloads.Kernel

def name (k : Kernel) : String := k.metadata.anyName

def ns (k : Kernel) : String := k.metadata.ns.getD ""

def idVariable : String := "KERNEL_ID"

/-- The value of the first id variable of the first container, unless it is empty. -/
def templateId? (t : PodTemplate) : Option String := do
  let container ← t.firstContainer?
  let var ← (container.env.getD []).find? fun var => var.name = idVariable
  var.value.filter fun id => !id.isEmpty

/-- Gives the first id variable the value, or adds one at the end. -/
def setId (id : String) : List EnvVar → List EnvVar
  | [] => [.literal idVariable id]
  | var :: rest =>
    if var.name = idVariable then .literal var.name id :: rest else var :: setId id rest

def withId (id : String) (t : PodTemplate) : PodTemplate :=
  t.mapFirstContainer fun c => { c with env := some (setId id (c.env.getD [])) }

def identify (k : Kernel) (t : PodTemplate) : Except InvalidSpec (String × PodTemplate) :=
  match k.spec.kernelId with
  | some id => if id.isEmpty then .error .emptyKernelId else .ok (id, withId id t)
  | none =>
    match templateId? t with
    | some id => .ok (id, t)
    | none => .error .noKernelId

def children (k : Kernel) (t : PodTemplate) : Except InvalidSpec ChildSet := do
  let (id, t) ← k.identify t
  let selector := Labels.selector Label.kernel k.ns k.name
  let t ← t.complete (selector.insert Label.kernelId id)
  let metadata := Labels.childMetadata Label.kernel k.ns k.name
  return .ofList [.deployment (.ofTemplate metadata selector t)]

/-- The template of the kernel itself comes before the one it refers to. -/
def generate (k : Kernel) : Generating ChildSet :=
  match k.spec.template with
  | some t => Generating.ofExcept (k.children t)
  | none =>
    match k.spec.templateRef with
    | none => throw (.validation .noTemplateSource)
    | some ref => do
      let found ← Generating.ofResolving (Lookups.kernelTemplate k.ns ref.name)
      match found.spec.template with
      | none => throw (.validation (.emptyTemplate ref.name))
      | some t => Generating.ofExcept (k.children t)

end JupyterWorkloads.Kernel
