import JupyterWorkloads.Defaults
import JupyterWorkloads.Failure
import JupyterWorkloads.Log

/-! When a parent is looked at again after it was reconciled. A parent whose spec is invalid waits
for a change, one that lost a race is looked at again at once, and every other failure waits a
while. -/
namespace JupyterWorkloads

inductive Revisit where
  /-- Not before the parent or what it depends on changes. -/
  | onChange
  | after (seconds : Nat)
  deriving DecidableEq, Inhabited

namespace Revisit

def afterSuccess (options : Options) : Revisit := after options.requeueSeconds

def afterFailure (options : Options) : ReconcileError → Revisit
  | .validation _ => onChange
  | .conflict _ => after 0
  | _ => after options.errorRequeueSeconds

end Revisit

def ReconcileError.logLine (e : ReconcileError) (parent : ObjectRef) : LogLine :=
  match e with
  | .validation _ => ⟨.warn, "Waiting for " ++ parent.display ++ " to change: " ++ e.message⟩
  | .conflict _ => ⟨.debug, "Retrying " ++ parent.display ++ " after conflict: " ++ e.message⟩
  | _ => ⟨.error, "Failed to reconcile " ++ parent.display ++ ": " ++ e.message⟩

end JupyterWorkloads
