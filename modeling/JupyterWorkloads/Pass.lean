import JupyterWorkloads.Converge
import JupyterWorkloads.Parent
import JupyterWorkloads.Status

/-! One pass over a parent: generate its children, converge them and project the status. Nothing is
written before generation has succeeded. -/
namespace JupyterWorkloads

def PassCalls : Interface := Lookups.sum Store.Calls

structure PassOutcome where
  report : Report
  /-- The status the parent should get, if it changes. -/
  status : Option WorkloadStatus
  deriving DecidableEq, Inhabited

/-- The status that a parent should get after a pass with the report. -/
def Report.status? (report : Report) (p : Parent) : Option WorkloadStatus :=
  if p.kind.hasStatus then
    report.deployment.bind fun o => WorkloadStatus.project? p.status? o
  else none

def runPass (p : Parent) (d : Defaults) : ExceptT ReconcileError (Program PassCalls) PassOutcome := do
  match p.owner? with
  | none => throw (.missingUid p.ref)
  | some owner =>
    let set ← ExceptT.mk (@Program.left Lookups Store.Calls _ (p.generate d).run)
    let report ← ExceptT.mk (@Program.right Lookups Store.Calls _ (converge owner set).run)
    return ⟨report, report.status? p⟩

/-- The status of a parent whose spec is invalid, if it changes. -/
def validationStatus? (p : Parent) (reason : InvalidSpec) : Option WorkloadStatus :=
  if p.kind.hasStatus then WorkloadStatus.withMessage? p.status? reason.message else none

/-- The status that a parent should get after a pass, if it changes. Only an invalid spec is told in
the status when the pass failed. -/
def Parent.statusAfter? (p : Parent) : Except ReconcileError PassOutcome → Option WorkloadStatus
  | .ok outcome => outcome.status
  | .error (.validation reason) => validationStatus? p reason
  | .error _ => none

end JupyterWorkloads
