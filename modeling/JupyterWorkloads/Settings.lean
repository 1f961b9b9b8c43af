import JupyterWorkloads.CommandLine
import JupyterWorkloads.Defaults
import JupyterWorkloads.Text.Decimal

/-! The settings of the control plane, read from its command line and its environment. -/
namespace JupyterWorkloads

structure Settings where
  options : Options
  defaults : Defaults
  deriving DecidableEq, Inhabited

namespace Settings

open CommandLine

def textFlag (long envName : String) : Flag where
  long := long
  envName := some envName
  role := .value fun _ => true

def secondsFlag (long envName : String) : Flag where
  long := long
  envName := some envName
  role := .value fun value => (Text.toWord64? value).isSome

def flags : List Flag := [
  textFlag "gateway-image" "EJO_GATEWAY_IMAGE",
  textFlag "kernel-image" "EJO_KERNEL_IMAGE",
  textFlag "notebook-image" "EJO_NOTEBOOK_IMAGE",
  textFlag "gateway-cluster-role" "EJO_GATEWAY_CLUSTER_ROLE",
  secondsFlag "requeue-seconds" "EJO_REQUEUE_SECONDS",
  secondsFlag "error-requeue-seconds" "EJO_ERROR_REQUEUE_SECONDS",
  helpFlag]

def ofGiven (given : Given) : Settings :=
  let text (name fallback : String) : String := (given.lookup name).getD fallback
  let seconds (name : String) (fallback : Nat) : Nat :=
    ((given.lookup name).bind Text.toWord64?).getD fallback
  let o : Options := {}
  let d : Defaults := {}
  { options := {
      requeueSeconds := seconds "requeue-seconds" o.requeueSeconds
      errorRequeueSeconds := seconds "error-requeue-seconds" o.errorRequeueSeconds }
    defaults := { d with
      gatewayImage := text "gateway-image" d.gatewayImage
      kernelImage := text "kernel-image" d.kernelImage
      notebookImage := text "notebook-image" d.notebookImage
      gatewayClusterRole := text "gateway-cluster-role" d.gatewayClusterRole } }

def ofArguments (environment : List (String × String)) (words : List String) :
    Except UsageError Settings :=
  (CommandLine.read flags environment words).map ofGiven

end Settings

end JupyterWorkloads
