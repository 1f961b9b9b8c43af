import JupyterWorkloads.Api.Client
import JupyterWorkloads.Launch.Pod

/-! A launch on an API server: read the kernel template, make the pod from it and create it. -/
namespace JupyterWorkloads

inductive LaunchFailure where
  | template (key : TemplateKey) (source : ApiFailure)
  | invalid (error : LaunchError)
  | pod (source : ApiFailure)
  deriving DecidableEq, Inhabited

/-- The messages of a failure and of what caused it, outermost first. -/
def LaunchFailure.chain : LaunchFailure → List String
  | template key f => ("Failed to get kernel template " ++ key.ns ++ "/" ++ key.name) :: f.chain
  | invalid e => [e.message]
  | pod f => "Failed to create kernel pod" :: f.chain

def LaunchFailure.message (f : LaunchFailure) : String := ": ".intercalate f.chain

def launch (key : TemplateKey) (p : LaunchParameters) :
    ExceptT LaunchFailure Api.Action Pod := do
  let template : KernelTemplate ← ExceptT.mk do
    let found ← Api.get Api.kernelTemplates key.ns key.name decode
    return found.mapError (LaunchFailure.template key)
  let pod ← ExceptT.mk (pure ((template.launchPod p).mapError LaunchFailure.invalid))
  ExceptT.mk do
    let created ← Api.create Api.pods (pod.metadata.ns.getD "") (encode pod) decode
    return created.mapError LaunchFailure.pod

end JupyterWorkloads
