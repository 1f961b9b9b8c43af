import JupyterWorkloads.KernelTemplate
import JupyterWorkloads.Launch.Parameters

/-! The pod of a launched kernel: the pod template of a kernel template, named, labelled and told how
it was launched. -/
namespace JupyterWorkloads

namespace KernelTemplate

def display (t : KernelTemplate) : String :=
  t.metadata.ns.getD "" ++ "/" ++ t.metadata.anyName

/-- The container with the launch variables at the end of its environment. -/
def launchContainer (p : LaunchParameters) (c : Container) : Container :=
  { c with
    image := p.image.or c.image
    env := some (c.env.getD [] ++ p.env) }

def launchMetadata (p : LaunchParameters) (m : ObjectMeta) : ObjectMeta :=
  { m with
    name := some p.podName
    ns := some p.podNamespace
    labels := some ((m.labels.getD ∅).insert Label.kernelId p.kernelId) }

/-- The pod that a launch creates. Only the first container is told about the launch. -/
def launchPod (t : KernelTemplate) (p : LaunchParameters) : Except LaunchError Pod :=
  match t.spec.template.bind fun pod => pod.spec.map (pod.metadata, ·) with
  | none => .error (.noTemplate t.display)
  | some (metadata, spec) =>
    match spec.containers with
    | [] => .error (.noContainers t.display)
    | first :: rest => .ok {
        metadata := launchMetadata p (metadata.getD default)
        spec := some { spec with containers := launchContainer p first :: rest } }

end KernelTemplate

end JupyterWorkloads
