import JupyterWorkloads.Failure
import JupyterWorkloads.Parent
import JupyterWorkloads.Text.Uri

/-! Collections: where an API server keeps the objects of a kind, and the paths to them. -/
namespace JupyterWorkloads

namespace Api

structure Collection where
  /-- The core objects have no group. -/
  group : Option String
  version : String
  plural : String
  deriving DecidableEq, Inhabited

namespace Collection

def root (c : Collection) : String :=
  (match c.group with
    | none => "/api/"
    | some group => "/apis/" ++ group ++ "/") ++ c.version

def path (c : Collection) (ns : String) : String :=
  c.root ++ "/namespaces/" ++ ns ++ "/" ++ c.plural

end Collection

def customCollection (plural : String) : Collection := ⟨some apiGroup, apiGroupVersion, plural⟩

def pods : Collection := ⟨none, "v1", "pods"⟩

def kernelTemplates : Collection := customCollection "jupyterkerneltemplates"

def pathOf (target : String) : Except ApiFailure String :=
  match Text.Uri.path? target.toList with
  | some path => .ok (String.ofList path)
  | none => .error .unaddressable

/-- The path of an object, which needs a name. -/
def Collection.object (c : Collection) (ns name : String) (subresource : String) :
    Except ApiFailure String :=
  if name.isEmpty then .error .unnamed
  else pathOf (c.path ns ++ "/" ++ name ++ subresource)

end Api

def ChildKind.collection (kind : ChildKind) : Api.Collection := ⟨kind.group, "v1", kind.plural⟩

def ParentKind.collection (kind : ParentKind) : Api.Collection := Api.customCollection kind.plural

def ReferenceKind.collection : ReferenceKind → Api.Collection
  | kernelSpec => ParentKind.kernelSpec.collection
  | kernelTemplate => Api.kernelTemplates

end JupyterWorkloads
