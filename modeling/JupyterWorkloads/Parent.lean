import JupyterWorkloads.Gateway.Children
import JupyterWorkloads.Kernel.Children
import JupyterWorkloads.KernelSpec.Children
import JupyterWorkloads.Notebook.Children

/-! Parents: the custom resources that are reconciled into children they own. -/
namespace JupyterWorkloads

inductive ParentKind where
  | gateway
  | kernelSpec
  | kernel
  | notebook
  deriving DecidableEq, Inhabited

namespace ParentKind

def all : List ParentKind := [gateway, kernelSpec, kernel, notebook]

def name : ParentKind → String
  | gateway => "JupyterGateway"
  | kernelSpec => "JupyterKernelSpec"
  | kernel => "JupyterKernel"
  | notebook => "JupyterNotebook"

def ofName? (s : String) : Option ParentKind := all.find? fun kind => kind.name == s

def plural : ParentKind → String
  | gateway => "jupytergateways"
  | kernelSpec => "jupyterkernelspecs"
  | kernel => "jupyterkernels"
  | notebook => "jupyternotebooks"

/-- The label that names the parent on its children. -/
def label : ParentKind → String
  | gateway => Label.gateway
  | kernelSpec => Label.kernelSpec
  | kernel => Label.kernel
  | notebook => Label.notebook

/-- Whether parents of the kind carry the status of a deployment. -/
def hasStatus : ParentKind → Bool
  | kernelSpec => false
  | _ => true

def ref (kind : ParentKind) (ns : Option String) (name : String) : ObjectRef where
  kind := kind.name
  version := some apiGroupVersion
  group := some apiGroup
  ns := ns
  name := name

end ParentKind

inductive Parent where
  | gateway (object : Gateway)
  | kernelSpec (object : KernelSpec)
  | kernel (object : Kernel)
  | notebook (object : Notebook)
  deriving DecidableEq, Inhabited

namespace Parent

def kind : Parent → ParentKind
  | gateway _ => .gateway
  | kernelSpec _ => .kernelSpec
  | kernel _ => .kernel
  | notebook _ => .notebook

def metadata : Parent → ObjectMeta
  | gateway o => o.metadata
  | kernelSpec o => o.metadata
  | kernel o => o.metadata
  | notebook o => o.metadata

/-- The status the parent carries; a kernel spec never has one. -/
def status? : Parent → Option WorkloadStatus
  | gateway o => o.status
  | kernelSpec _ => none
  | kernel o => o.status
  | notebook o => o.status

/-- The parent with another status; a kernel spec keeps none. -/
def withStatus (status : Option WorkloadStatus) : Parent → Parent
  | gateway o => gateway { o with status := status }
  | kernelSpec o => kernelSpec o
  | kernel o => kernel { o with status := status }
  | notebook o => notebook { o with status := status }

def name (p : Parent) : String := p.metadata.anyName

def ref (p : Parent) : ObjectRef := p.kind.ref p.metadata.ns p.name

def toJson : Parent → Json
  | gateway o => encode o
  | kernelSpec o => encode o
  | kernel o => encode o
  | notebook o => encode o

def ofJson? (kind : ParentKind) (v : Json) : Option Parent :=
  match kind with
  | .gateway => (decode v).map gateway
  | .kernelSpec => (decode v).map kernelSpec
  | .kernel => (decode v).map kernel
  | .notebook => (decode v).map notebook

/-- The reference that marks the parent as the controller of a child. It needs a name and a uid. -/
def owner? (p : Parent) : Option OwnerReference := do
  let name ← p.metadata.name
  let uid ← p.metadata.uid
  return {
    apiVersion := JupyterWorkloads.apiVersion
    blockOwnerDeletion := none
    controller := some true
    kind := p.kind.name
    name := name
    uid := uid }

def generate (p : Parent) (d : Defaults) : Generating ChildSet :=
  match p with
  | gateway o => o.generate d
  | kernelSpec o => return o.children d
  | kernel o => o.generate
  | notebook o => Generating.ofExcept (o.children d)

end Parent

/-- The gateways in the namespace of a kernel spec that name it. -/
def gatewaysUsing (gateways : List Gateway) (kernelSpec : KernelSpec) : List Gateway :=
  gateways.filter fun g =>
    g.metadata.ns = kernelSpec.metadata.ns ∧ kernelSpec.metadata.anyName ∈ g.kernelNames

/-- The kernels in the namespace of a kernel template that take their pod template from it. -/
def kernelsUsing (kernels : List Kernel) (template : KernelTemplate) : List Kernel :=
  kernels.filter fun k =>
    k.metadata.ns = template.metadata.ns ∧ k.spec.template.isNone ∧
      k.spec.templateRef.any fun ref => ref.name = template.metadata.anyName

end JupyterWorkloads
