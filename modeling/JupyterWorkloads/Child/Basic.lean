import JupyterWorkloads.Access
import JupyterWorkloads.Child.Kind
import JupyterWorkloads.ConfigMap
import JupyterWorkloads.Service

/-! Children: the objects that a parent owns on the cluster, and sets of them in the order they are
converged. -/
namespace JupyterWorkloads

inductive Child where
  | serviceAccount (object : ServiceAccount)
  | roleBinding (object : RoleBinding)
  | configMap (object : ConfigMap)
  | deployment (object : Deployment)
  | service (object : Service)
  deriving DecidableEq, Inhabited

namespace Child

def kind : Child → ChildKind
  | serviceAccount _ => .serviceAccount
  | roleBinding _ => .roleBinding
  | configMap _ => .configMap
  | deployment _ => .deployment
  | service _ => .service

def metadata : Child → ObjectMeta
  | serviceAccount o => o.metadata
  | roleBinding o => o.metadata
  | configMap o => o.metadata
  | deployment o => o.metadata
  | service o => o.metadata

def withMetadata (m : ObjectMeta) : Child → Child
  | serviceAccount o => serviceAccount { o with metadata := m }
  | roleBinding o => roleBinding { o with metadata := m }
  | configMap o => configMap { o with metadata := m }
  | deployment o => deployment { o with metadata := m }
  | service o => service { o with metadata := m }

def mapMetadata (f : ObjectMeta → ObjectMeta) (child : Child) : Child :=
  child.withMetadata (f child.metadata)

def name (child : Child) : String := child.metadata.name.getD ""

def ns (child : Child) : String := child.metadata.ns.getD ""

def key (child : Child) : ChildKey := ⟨child.kind, child.ns, child.name⟩

def ref (child : Child) : ObjectRef := child.key.ref

def toJson : Child → Json
  | serviceAccount o => encode o
  | roleBinding o => encode o
  | configMap o => encode o
  | deployment o => encode o
  | service o => encode o

def ofJson? (kind : ChildKind) (v : Json) : Option Child :=
  match kind with
  | .serviceAccount => (decode v).map serviceAccount
  | .roleBinding => (decode v).map roleBinding
  | .configMap => (decode v).map configMap
  | .deployment => (decode v).map deployment
  | .service => (decode v).map service

def deployment? : Child → Option Deployment
  | deployment o => some o
  | _ => none

@[simp] theorem kind_withMetadata (m : ObjectMeta) (child : Child) :
    (child.withMetadata m).kind = child.kind := by
  cases child <;> rfl

@[simp] theorem metadata_withMetadata (m : ObjectMeta) (child : Child) :
    (child.withMetadata m).metadata = m := by
  cases child <;> rfl

end Child

/-- The children of one parent in convergence order. -/
structure ChildSet where
  toList : List Child
  deriving DecidableEq, Inhabited

namespace ChildSet

/-- Groups the children by kind, in the order of kinds, and keeps the order within a kind. -/
def ofList (children : List Child) : ChildSet :=
  ⟨ChildKind.all.flatMap fun kind => children.filter fun child => child.kind = kind⟩

def deployment? (set : ChildSet) : Option Deployment := set.toList.findSome? Child.deployment?

end ChildSet

end JupyterWorkloads
