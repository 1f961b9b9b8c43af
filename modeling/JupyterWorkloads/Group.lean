/-! The API group of the custom resources and the labels that tie objects to them. -/
namespace JupyterWorkloads

def apiGroup : String := "kubeflow.tkestack.io"

def apiGroupVersion : String := "v1alpha1"

/-- The group and version of the custom resources, as objects carry it. -/
def apiVersion : String := apiGroup ++ "/" ++ apiGroupVersion

namespace Label

def ns : String := "namespace"

def gateway : String := "gateway"

def kernel : String := "kernel"

def kernelSpec : String := "kernelspec"

def notebook : String := "notebook"

def kernelId : String := "kernel_id"

def managedBy : String := "app.kubernetes.io/managed-by"

/-- The value of the managed-by label on every generated object. -/
def manager : String := "ejo-control-plane"

end Label

/-- The annotation with the fingerprint of the object last generated for a child. -/
def desiredHashAnnotation : String := "ejo.kubeflow.tkestack.io/desired-hash"

end JupyterWorkloads
