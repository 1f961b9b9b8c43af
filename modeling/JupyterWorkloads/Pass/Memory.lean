import JupyterWorkloads.Pass
import JupyterWorkloads.Store.Memory

/-! Passes against a store in memory and a fixed answer to every lookup. -/
namespace JupyterWorkloads

/-- Answers the lookups of a pass from a resolver and its calls from the store. -/
def PassCalls.inMemory (resolver : Resolver) :
    (request : PassCalls.Request) → Store.Memory → PassCalls.Answer request × Store.Memory
  | .inl lookup, m => (resolver lookup, m)
  | .inr call, m => m.handle call

namespace Store.Memory

def pass (m : Memory) (resolver : Resolver) (d : Defaults) (p : Parent) :
    Outcome Memory (Except ReconcileError PassOutcome) :=
  (runPass p d).run.run (PassCalls.inMemory resolver) m

def converge (m : Memory) (owner : OwnerReference) (set : ChildSet) :
    Outcome Memory (Except ReconcileError Report) :=
  (JupyterWorkloads.converge owner set).run.run Memory.handle m

end Store.Memory

end JupyterWorkloads
