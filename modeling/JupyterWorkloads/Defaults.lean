/-! Values that generation falls back to when a parent leaves a field unset. -/
namespace JupyterWorkloads

structure Defaults where
  gatewayImage : String := "ccr.ccs.tencentyun.com/kubeflow-oteam/enterprise-gateway:2.5.0"
  kernelImage : String := "ccr.ccs.tencentyun.com/kubeflow-oteam/jupyter-kernel-py:2.5.0"
  notebookImage : String := "jupyter/base-notebook:python-3.9.7"
  gatewayPort : Int32 := 8888
  notebookPort : Int32 := 8888
  defaultKernel : String := "python_kubernetes"
  /-- The cluster role bound to the service account of every gateway. -/
  gatewayClusterRole : String := "enterprise-gateway-controller"
  kernels : List String := [
    "r_kubernetes",
    "python_kubernetes",
    "python_tf_kubernetes",
    "python_tf_gpu_kubernetes",
    "scala_kubernetes",
    "spark_r_kubernetes",
    "spark_python_kubernetes",
    "spark_scala_kubernetes"]
  cullIdleTimeout : Int32 := 3600
  kernelLaunchTimeout : Int32 := 60
  /-- The directory that a gateway loads kernel specs from. -/
  kernelPath : String := "/usr/local/share/jupyter/kernels"
  deriving DecidableEq

instance : Inhabited Defaults := ⟨{}⟩

/-- Delays, in seconds, before an object is looked at again. -/
structure Options where
  requeueSeconds : Nat := 60
  errorRequeueSeconds : Nat := 5
  deriving DecidableEq

instance : Inhabited Options := ⟨{}⟩

/-- Kernel names the way a gateway reads its allowlist: each in single quotes, with commas between. -/
def allowlistChars : List String → List Char
  | [] => []
  | name :: rest =>
    '\'' :: name.toList ++ '\'' :: match rest with
      | [] => []
      | _ :: _ => ',' :: allowlistChars rest

def allowlist (kernels : List String) : String := String.ofList (allowlistChars kernels)

end JupyterWorkloads
