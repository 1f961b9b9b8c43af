import JupyterWorkloads.Pass.Memory
import JupyterWorkloads.Proofs.Program.Surroundings

/-! Runs of a pass over a store in memory. Generation looks things up and leaves the store alone, and what
it gives does not depend on the store; the convergence that follows runs as it does on its own. -/
namespace JupyterWorkloads

open Store Memory

namespace PassCalls

variable {α : Type}

def lookup (l : Lookup) : PassCalls.Request := Sum.inl l

def call (c : Call) : PassCalls.Request := Sum.inr c

def Reads (r : PassCalls.Request) : Prop := (∃ l, r = lookup l) ∨ ∃ key, r = call (.get key)

def generating (g : Generating α) : Program PassCalls (Except ReconcileError α) := Program.left g.run

def acting (p : Action α) : Program PassCalls α := Program.right p

section Runs

variable (resolver : Resolver) (m : Memory)

theorem run_generating (g : Generating α) : (generating g).run (inMemory resolver) m =
    ⟨(Generating.resolve resolver g).value, m, (Generating.resolve resolver g).log⟩ := by
  suffices all : ∀ (p : Generating α) (made : List Lookup),
      let out := p.run.run (fun (l : Lookup) (made : List Lookup) => (resolver l, made ++ [l])) made
      (generating p).run (inMemory resolver) m = ⟨out.value, m, out.log⟩ from
    all g []
  intro p
  induction p with
  | done a => exact fun _ => rfl
  | note line rest ih =>
    exact fun made => congrArg (fun out : Outcome _ _ => { out with log := line :: out.log }) (ih made)
  | ask r next ih => exact fun _ => ih (resolver r) _

theorem requests_generating (g : Generating α) : (generating g).requests (inMemory resolver) m =
    (Generating.resolve resolver g).state.map lookup := by
  suffices all : ∀ (p : Generating α) (made : List Lookup),
      (p.run.run (fun (l : Lookup) (made : List Lookup) => (resolver l, made ++ [l])) made).state.map
          lookup =
        made.map lookup ++ (generating p).requests (inMemory resolver) m from
    (all g []).symm
  intro p
  induction p with
  | done a => exact fun made => (List.append_nil _).symm
  | note line rest ih => exact ih
  | ask r next ih =>
    intro made
    refine (ih (resolver r) _).trans ?_
    rw [List.map_append, List.append_assoc]
    rfl

variable (p : Action α)

theorem run_acting : (acting p).run (inMemory resolver) m = p.run handle m := by
  induction p generalizing m with
  | done a => rfl
  | note line rest ih =>
    exact congrArg (fun out : Outcome _ _ => { out with log := line :: out.log }) (ih m)
  | ask r next ih => exact ih (m.handle r).1 (m.handle r).2

theorem requests_acting : (acting p).requests (inMemory resolver) m =
    (p.requests handle m).map call := by
  induction p generalizing m with
  | done a => rfl
  | note line rest ih => exact ih m
  | ask r next ih => exact congrArg (List.cons _) (ih (m.handle r).1 (m.handle r).2)

end Runs

end PassCalls

open PassCalls

theorem runPass_run {p : Parent} {owner : OwnerReference} (d : Defaults) (owned : p.owner? = some owner) :
    (runPass p d).run = (generating (p.generate d)).bind fun
      | .error e => .done (.error e)
      | .ok set => (acting (converge owner set).run).bind fun
        | .error e => .done (.error e)
        | .ok report => .done (.ok ⟨report, report.status? p⟩) := by
  unfold runPass
  rw [owned]
  refine congrArg (Program.bind (I := PassCalls) _) (funext fun given => ?_)
  rcases given with e | set
  · rfl
  · refine congrArg (Program.bind (I := PassCalls) _) (funext fun done => ?_)
    rcases done with e | report <;> rfl

namespace Store.Memory

variable (m : Memory) {resolver : Resolver} {d : Defaults} {p : Parent} {owner : OwnerReference}

def passRequests (m : Memory) (resolver : Resolver) (d : Defaults) (p : Parent) :
    List PassCalls.Request :=
  (runPass p d).run.requests (inMemory resolver) m

theorem pass_unowned (resolver : Resolver) (d : Defaults) (unowned : p.owner? = none) :
    (m.pass resolver d p).value = .error (.missingUid p.ref) ∧ (m.pass resolver d p).state = m ∧
      m.passRequests resolver d p = [] := by
  unfold pass passRequests runPass
  rw [unowned]
  exact ⟨rfl, rfl, rfl⟩

theorem pass_ungenerated {e : ReconcileError} (owned : p.owner? = some owner)
    (given : (Generating.resolve resolver (p.generate d)).value = .error e) :
    (m.pass resolver d p).value = .error e ∧ (m.pass resolver d p).state = m ∧
      m.passRequests resolver d p =
        (Generating.resolve resolver (p.generate d)).state.map lookup := by
  unfold pass passRequests
  rw [runPass_run d owned, Program.value_bind, Program.state_bind, Program.requests_bind,
    run_generating, requests_generating, given]
  exact ⟨rfl, rfl, List.append_nil _⟩

/-- After a generation, a pass is the convergence of what was generated, with the status that its report
tells. -/
theorem pass_generated {set : ChildSet} (owned : p.owner? = some owner)
    (given : (Generating.resolve resolver (p.generate d)).value = .ok set) :
    (m.pass resolver d p).value =
        (m.converge owner set).value.map (fun report => ⟨report, report.status? p⟩) ∧
      (m.pass resolver d p).state = (m.converge owner set).state ∧
        m.passRequests resolver d p =
          (Generating.resolve resolver (p.generate d)).state.map lookup ++
            ((JupyterWorkloads.converge owner set).run.requests handle m).map call := by
  unfold pass passRequests
  rw [runPass_run d owned, Program.value_bind, Program.state_bind, Program.requests_bind,
    run_generating, requests_generating, given]
  dsimp only
  rw [Program.value_bind, Program.state_bind, Program.requests_bind, run_acting, requests_acting]
  unfold converge
  cases ((JupyterWorkloads.converge owner set).run.run handle m).value <;>
    exact ⟨rfl, rfl, congrArg _ (List.append_nil _)⟩

end Store.Memory

end JupyterWorkloads
