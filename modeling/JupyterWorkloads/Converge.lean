import JupyterWorkloads.Drift
import JupyterWorkloads.Fingerprint
import JupyterWorkloads.Group
import JupyterWorkloads.Store.Interface

/-! Convergence: brings the children of a parent to their desired state, one after the other. A child
is left alone while the live object contains the desired one, is owned by the parent and carries the
fingerprint of what was generated. The first failure ends the pass. -/
namespace JupyterWorkloads

/-- What one pass did, and the deployment as it was last seen. -/
structure Report where
  created : Nat := 0
  updated : Nat := 0
  unchanged : Nat := 0
  /-- Creations that another writer was faster with. -/
  raced : Nat := 0
  deployment : Option Deployment := none
  deriving DecidableEq, Inhabited

def Report.writes (r : Report) : Nat := r.created + r.updated

/-- Remembers the object if it is a deployment. -/
def Report.observe (r : Report) (live : Option Child) : Report :=
  match live with
  | some (.deployment o) => { r with deployment := some o }
  | _ => r

namespace Child

def withOwner (owner : OwnerReference) (child : Child) : Child :=
  child.mapMetadata fun m => { m with ownerReferences := some [owner] }

def annotate (name value : String) (child : Child) : Child :=
  child.mapMetadata fun m =>
    { m with annotations := some ((m.annotations.getD ∅).insert name value) }

/-- The fingerprint of the child as generated for its owner. -/
def fingerprint (child : Child) (owner : OwnerReference) : String :=
  Fingerprint.ofJson (child.withOwner owner).toJson

/-- The child owned by the parent and stamped with its fingerprint. -/
def prepare (child : Child) (owner : OwnerReference) : Child :=
  (child.withOwner owner).annotate desiredHashAnnotation (child.fingerprint owner)

def recordedHash? (child : Child) : Option String :=
  child.metadata.annotations.bind fun a => a.get? desiredHashAnnotation

def owners (child : Child) : List OwnerReference := child.metadata.ownerReferences.getD []

/-- Whether the owner is a controller of the child. -/
def isOwnedBy (child : Child) (owner : OwnerReference) : Bool :=
  child.owners.any fun o => o.uid = owner.uid ∧ o.controller = some true

def unownedJson (child : Child) : Json :=
  let v := child.toJson
  match v.get? "metadata" with
  | some metadata => v.set "metadata" (metadata.remove "ownerReferences")
  | none => v

/-- Whether the live object holds all that the desired one sets. What the generator stopped to set
shows only in the fingerprint. -/
def isConverged (live desired : Child) (owner : OwnerReference) : Bool :=
  live.isOwnedBy owner && live.recordedHash? == desired.recordedHash? &&
    Drift.contains live.toJson desired.unownedJson

/-- The addresses a service keeps when it is replaced. -/
def keepAddresses : Child → Child → Child
  | .service live, .service next =>
    match live.spec, next.spec with
    | some liveSpec, some nextSpec => .service { next with
        spec := some { nextSpec with
          clusterIP := liveSpec.clusterIP
          clusterIPs := liveSpec.clusterIPs } }
    | _, _ => .service next
  | _, next => next

/-- The desired child with the identity of the live object and what others attached to it. -/
def replacement (live desired : Child) (owner : OwnerReference) : Child :=
  keepAddresses live (desired.mapMetadata fun m =>
    { m with
      labels := some ((live.metadata.labels.getD ∅).union (m.labels.getD ∅))
      ownerReferences := some (live.owners.filter (fun o => o.uid ≠ owner.uid) ++ [owner])
      annotations := some ((live.metadata.annotations.getD ∅).union (m.annotations.getD ∅))
      resourceVersion := live.metadata.resourceVersion
      uid := live.metadata.uid })

/-- The role of a binding cannot be replaced. -/
def roleChanged : Child → Child → Bool
  | .roleBinding live, .roleBinding desired => live.roleRef != desired.roleRef
  | _, _ => false

end Child

namespace Converge

abbrev Pass := ExceptT ReconcileError Store.Action

def log (level : LogLevel) (message : String) : Pass Unit :=
  ExceptT.lift (Program.log level message)

/-- Makes a call whose failure ends the pass. -/
def attempt {α : Type} (action : Store.Action (Except StoreError α)) : Pass α :=
  ExceptT.mk ((fun r => r.mapError ReconcileError.ofStore) <$> action)

def attemptLogged {α : Type} (what : String) (ref : ObjectRef)
    (action : Store.Action (Except StoreError α)) : Pass α := do
  match ← ExceptT.lift action with
  | .ok a => return a
  | .error e =>
    log .warn ("Failed to " ++ what ++ " object: " ++ ref.display ++ ": " ++ e.message)
    throw (ReconcileError.ofStore e)

/-- Creates the child. When another writer was faster, its object is taken as it is. -/
def create (desired : Child) (report : Report) : Pass Report := do
  let ref := desired.ref
  log .info ("Creating object: " ++ ref.display)
  match ← ExceptT.lift (Store.create desired) with
  | .ok live => return { report with created := report.created + 1 }.observe (some live)
  | .error (.alreadyExists _) =>
    log .warn ("Object was created concurrently: " ++ ref.display)
    let live ← attempt (Store.get desired.key)
    return { report with raced := report.raced + 1 }.observe live
  | .error e =>
    log .warn ("Failed to create object: " ++ ref.display ++ ": " ++ e.message)
    throw (ReconcileError.ofStore e)

/-- Replaces the live object. A binding whose role changed is deleted and created again. -/
def update (live desired : Child) (owner : OwnerReference) (report : Report) : Pass Report := do
  let ref := desired.ref
  if Child.roleChanged live desired then
    log .info ("Recreating object with new role: " ++ ref.display)
    attemptLogged "delete" ref (Store.delete desired.key)
    create desired report
  else
    log .info ("Updating object: " ++ ref.display)
    let stored ← attemptLogged "update" ref
      (Store.replace (Child.replacement live desired owner))
    return { report with updated := report.updated + 1 }.observe (some stored)

/-- Brings one child to its desired state. -/
def child (owner : OwnerReference) (report : Report) (generated : Child) : Pass Report := do
  let desired := generated.prepare owner
  match ← attempt (Store.get desired.key) with
  | none => create desired report
  | some live =>
    if live.isConverged desired owner then
      log .debug ("Object is up to date: " ++ desired.ref.display)
      return { report with unchanged := report.unchanged + 1 }.observe (some live)
    else update live desired owner report

def children (owner : OwnerReference) (report : Report) : List Child → Pass Report
  | [] => return report
  | generated :: rest => do
    let report ← child owner report generated
    children owner report rest

end Converge

/-- One convergence of a set of children. -/
def converge (owner : OwnerReference) (set : ChildSet) : Converge.Pass Report :=
  Converge.children owner {} set.toList

end JupyterWorkloads
