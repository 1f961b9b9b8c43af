import JupyterWorkloads.Pod.Completion

/-! What a kernel pod is launched with, and what can stand in the way. -/
namespace JupyterWorkloads

structure TemplateKey where
  name : String
  ns : String
  deriving DecidableEq, Inhabited

structure LaunchParameters where
  kernelId : String
  podName : String
  podNamespace : String
  /-- Replaces the image of the template. -/
  image : Option String
  portRange : String
  responseAddress : String
  publicKey : String
  sparkContextInitMode : String
  language : String
  kernelName : String
  username : String
  deriving DecidableEq, Inhabited

def LaunchParameters.env (p : LaunchParameters) : List EnvVar := [
  .literal "EG_PORT_RANGE" p.portRange,
  .literal "EG_RESPONSE_ADDRESS" p.responseAddress,
  .literal "EG_PUBLIC_KEY" p.publicKey,
  .literal "KERNEL_ID" p.kernelId,
  .literal "KERNEL_LANGUAGE" p.language,
  .literal "KERNEL_NAME" p.kernelName,
  .literal "KERNEL_NAMESPACE" p.podNamespace,
  .literal "KERNEL_SPARK_CONTEXT_INIT_MODE" p.sparkContextInitMode,
  .literal "KERNEL_USERNAME" p.username]

/-- Why nothing can be launched. Templates are told by namespace and name. -/
inductive LaunchError where
  | missing (what : String)
  | noTemplate (template : String)
  | noContainers (template : String)
  deriving DecidableEq, Inhabited

namespace LaunchError

def kind : LaunchError → String
  | missing _ => "Missing"
  | noTemplate _ => "NoTemplate"
  | noContainers _ => "NoContainers"

def message : LaunchError → String
  | missing what => "Missing required value: " ++ what
  | noTemplate template => "Kernel template " ++ template ++ " has no pod template"
  | noContainers template => "Kernel template " ++ template ++ " has no containers"

end LaunchError

end JupyterWorkloads
