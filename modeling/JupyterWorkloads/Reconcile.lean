import JupyterWorkloads.Api.Children
import JupyterWorkloads.Revisit

/-! Reconciliation of one parent on an API server: read the parent afresh, pass over it, tell its
status if that changes, and say when to look again. Whether the status could be written changes
nothing else. -/
namespace JupyterWorkloads

/-- What is known of a parent before it is read. -/
structure ParentKey where
  kind : ParentKind
  ns : Option String
  name : String
  deriving DecidableEq, Inhabited

namespace ParentKey

def ref (key : ParentKey) : ObjectRef := key.kind.ref key.ns key.name

def collection (key : ParentKey) : Api.Collection := key.kind.collection

end ParentKey

def Parent.key (p : Parent) : ParentKey := ⟨p.kind, p.metadata.ns, p.name⟩

namespace Reconcile

/-- Writes the status of a parent. A failure is only logged. -/
def writeStatus (p : Parent) (status : WorkloadStatus) : Api.Action Unit := do
  let key := p.key
  match ← Api.patchStatus key.collection (key.ns.getD "") key.name status.patch
      (Parent.ofJson? key.kind) with
  | .ok _ => Program.log .debug ("Patched status: " ++ key.ref.display)
  | .error f =>
    Program.log .warn ("Failed to patch status: " ++ key.ref.display ++ ": " ++ f.message)

def passLine (object : ObjectRef) (report : Report) : LogLine :=
  if report.writes = 0 then ⟨.debug, "Reconciled " ++ object.display ++ " without changes"⟩
  else ⟨.info, "Reconciled " ++ object.display ++ ": " ++ Text.ofNat report.created ++
    " created, " ++ Text.ofNat report.updated ++ " updated, " ++ Text.ofNat report.unchanged ++
    " unchanged"⟩

def pass (object : ObjectRef) (p : Parent) (d : Defaults) :
    Api.Action (Except ReconcileError PassOutcome) := do
  let result ← (runPass p d).run.through PassCalls.overApi
  match result with
  | .ok outcome =>
    let line := passLine object outcome.report
    Program.log line.level line.message
  | .error _ => pure ()
  match p.statusAfter? result with
  | some status => writeStatus p status
  | none => pure ()
  return result

end Reconcile

/-- Reconciles the parent of a key. A parent that is gone waits for a change. -/
def reconcile (key : ParentKey) (options : Options) (d : Defaults) :
    Api.Action (Except ReconcileError Revisit) := do
  match ← Api.get? key.collection (key.ns.getD "") key.name (Parent.ofJson? key.kind) with
  | .error f => return .error (.platform key.ref f)
  | .ok none =>
    Program.log .debug ("Object no longer exists: " ++ key.ref.display)
    return .ok .onChange
  | .ok (some p) =>
    let result ← Reconcile.pass key.ref p d
    return result.map fun _ => Revisit.afterSuccess options

/-- How a reconciliation ended, and when the parent is looked at again. -/
structure Visit where
  failure : Option ReconcileError
  next : Revisit
  deriving DecidableEq, Inhabited

def visit (key : ParentKey) (options : Options) (d : Defaults) : Api.Action Visit := do
  match ← reconcile key options d with
  | .ok next => return ⟨none, next⟩
  | .error e =>
    let line := e.logLine key.ref
    Program.log line.level line.message
    return ⟨some e, Revisit.afterFailure options e⟩

end JupyterWorkloads
