import JupyterWorkloads.CommandLine
import JupyterWorkloads.Launch.Parameters

/-! The command line of the launcher: the options a gateway passes, and the variables it sets. -/
namespace JupyterWorkloads.LaunchArguments

open CommandLine

def optionFlag (long : String) : Flag where
  long := long
  role := .value fun _ => true

def variableFlag (long name : String) : Flag where
  long := long
  envName := some name
  role := .value fun _ => true

def verboseFlag : Flag where
  long := "verbose"
  short := some 'v'
  role := .switch

def flags : List Flag := [
  optionFlag "RemoteProcessProxy.kernel-id",
  optionFlag "RemoteProcessProxy.port-range",
  optionFlag "RemoteProcessProxy.response-address",
  optionFlag "RemoteProcessProxy.public-key",
  optionFlag "RemoteProcessProxy.spark-context-initialization-mode",
  optionFlag "kernel-template-name",
  optionFlag "kernel-template-namespace",
  variableFlag "pod-name" "KERNEL_POD_NAME",
  variableFlag "pod-namespace" "KERNEL_NAMESPACE",
  variableFlag "image" "KERNEL_IMAGE",
  variableFlag "language" "KERNEL_LANGUAGE",
  variableFlag "kernel-name" "KERNEL_NAME",
  variableFlag "username" "KERNEL_USERNAME",
  verboseFlag,
  helpFlag,
  versionFlag]

def read (environment : List (String × String)) (words : List String) : Except UsageError Given :=
  CommandLine.read flags environment words

def given? (given : Given) (name : String) : Option String :=
  (given.lookup name).filter fun value => !value.isEmpty

def needed (given : Given) (name what : String) : Except LaunchError String :=
  match given? given name with
  | some value => .ok value
  | none => .error (.missing what)

def isVerbose (given : Given) : Bool := given.any fun row => row.1 = verboseFlag.long

def templateKey (given : Given) : Except LaunchError TemplateKey := do
  return {
    name := ← needed given "kernel-template-name" "--kernel-template-name"
    ns := ← needed given "kernel-template-namespace" "--kernel-template-namespace" }

def parameters (given : Given) : Except LaunchError LaunchParameters := do
  let text (name : String) : String := (given.lookup name).getD ""
  return {
    kernelId := ← needed given "RemoteProcessProxy.kernel-id" "--RemoteProcessProxy.kernel-id"
    podName := ← needed given "pod-name" "KERNEL_POD_NAME"
    podNamespace := ← needed given "pod-namespace" "KERNEL_NAMESPACE"
    image := given? given "image"
    portRange := text "RemoteProcessProxy.port-range"
    responseAddress := text "RemoteProcessProxy.response-address"
    publicKey := text "RemoteProcessProxy.public-key"
    sparkContextInitMode := text "RemoteProcessProxy.spark-context-initialization-mode"
    language := text "language"
    kernelName := text "kernel-name"
    username := text "username" }

end JupyterWorkloads.LaunchArguments
