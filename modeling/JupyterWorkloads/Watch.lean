import JupyterWorkloads.Api.Server
import JupyterWorkloads.Reconcile
import JupyterWorkloads.Text.Pieces

/-! What changes on an API server ask for. A parent is reconciled when it is stored, when a labelled
child that names it as an owner is stored or removed, and when a kernel spec or a kernel template that
it refers to is stored or removed. -/
namespace JupyterWorkloads

namespace Api

/-- The collection that the object of a path is in. All that follows the plural is the object's. -/
def Collection.ofPath? (path : String) : Option Collection :=
  match (Text.pieces '/' path.toList).map String.ofList with
  | "" :: "api" :: version :: "namespaces" :: _ :: plural :: _ :: _ => some ⟨none, version, plural⟩
  | "" :: "apis" :: group :: version :: "namespaces" :: _ :: plural :: _ :: _ =>
    some ⟨some group, version, plural⟩
  | _ => none

structure Event where
  collection : Collection
  /-- What was stored, or what was there before the removal. -/
  object : Json
  removed : Bool
  deriving DecidableEq, Inhabited

def Event.ofRow? (removed : Bool) (row : String × Json) : Option Event :=
  (Collection.ofPath? row.1).map fun collection => ⟨collection, row.2, removed⟩

namespace Server

def changes (before after : Server) : List Event :=
  let removed := before.objects.rows.filter fun row => !after.objects.contains row.1
  let stored := after.objects.rows.filter fun row => before.object? row.1 ≠ some row.2
  removed.filterMap (Event.ofRow? true) ++ stored.filterMap (Event.ofRow? false)

/-- The objects of a collection in all namespaces. -/
def list {α : Type} (s : Server) (collection : Collection) (reader : Json → Option α) : List α :=
  s.objects.rows.filterMap fun row =>
    if Collection.ofPath? row.1 = some collection then reader row.2 else none

end Server

end Api

/-- Whether the owner is of the given kind, in the version that is served. -/
def OwnerReference.isOfKind (r : OwnerReference) (kind : ParentKind) : Bool :=
  r.apiVersion == JupyterWorkloads.apiVersion && r.kind == kind.name

namespace ObjectMeta

/-- Whether the object carries the mark of the manager. -/
def isManaged (m : ObjectMeta) : Bool :=
  m.labels.any fun labels => labels.get? Label.managedBy = some Label.manager

def owners (m : ObjectMeta) (kind : ParentKind) : List ParentKey :=
  ((m.ownerReferences.getD []).filter fun r => r.isOfKind kind).map fun r => ⟨kind, m.ns, r.name⟩

end ObjectMeta

namespace ParentKind

def owned : ParentKind → List ChildKind
  | gateway => [.serviceAccount, .roleBinding, .deployment, .service]
  | kernelSpec => [.configMap]
  | kernel => [.deployment]
  | notebook => [.deployment]

end ParentKind

namespace Api.Event

/-- The parent itself, once it is stored. -/
def self (e : Event) (kind : ParentKind) : List ParentKey :=
  if e.collection = kind.collection ∧ !e.removed then
    ((Parent.ofJson? kind e.object).map Parent.key).toList
  else []

def owners (e : Event) (kind : ParentKind) : List ParentKey :=
  if kind.owned.any fun child => child.collection = e.collection then
    match (e.object.get? "metadata").bind decode with
    | some (m : ObjectMeta) => if m.isManaged then m.owners kind else []
    | none => []
  else []

def users (e : Event) (s : Server) : ParentKind → List ParentKey
  | .gateway =>
    if e.collection = ParentKind.kernelSpec.collection then
      match decode e.object with
      | some (spec : KernelSpec) =>
        (gatewaysUsing (s.list ParentKind.gateway.collection decode) spec).map fun g =>
          (Parent.gateway g).key
      | none => []
    else []
  | .kernel =>
    if e.collection = kernelTemplates then
      match decode e.object with
      | some (template : KernelTemplate) =>
        (kernelsUsing (s.list ParentKind.kernel.collection decode) template).map fun k =>
          (Parent.kernel k).key
      | none => []
    else []
  | _ => []

def parents (e : Event) (s : Server) : List ParentKey :=
  ParentKind.all.flatMap fun kind => e.self kind ++ e.owners kind ++ e.users s kind

end Api.Event

def Api.Server.hasParent (s : Api.Server) (key : ParentKey) : Bool :=
  key ∈ (s.list key.collection (Parent.ofJson? key.kind)).map Parent.key

end JupyterWorkloads
