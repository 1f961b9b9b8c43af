import JupyterWorkloads.Proofs.Api.Requests
import JupyterWorkloads.Proofs.Converge.Settlement
import JupyterWorkloads.Proofs.Pass.Run

/-! Where a pass fails. A parent that cannot own anything stops it before any request, generation fails
only over the spec or over a reference, and convergence fails only when the store does. So a pass whose
failure is one of the first three has read references at most, whatever the server answers. -/
namespace JupyterWorkloads

open Store

/-- Failures that end a pass before anything is asked about its children. -/
def ReconcileError.Early : ReconcileError → Prop
  | .validation _ => True
  | .reference _ => True
  | .missingUid _ => True
  | _ => False

theorem ReconcileError.not_early_ofStore (e : StoreError) : ¬ (ofStore e).Early := by
  cases e <;> exact id

namespace Generating

variable {α β : Type}

def Blames (g : Generating α) : Prop :=
  g.run.Promises (fun _ => True) fun r => ∀ e, r = .error e →
    (∃ reason, e = .validation reason) ∨ ∃ cause, e = .reference cause

theorem blames_pure (a : α) : Blames (pure a) := by
  intro e he
  cases he

theorem blames_throw (reason : InvalidSpec) : Blames (throw (.validation reason) : Generating α) := by
  intro e he
  cases he
  exact .inl ⟨reason, rfl⟩

theorem blames_ofExcept (result : Except InvalidSpec α) : Blames (ofExcept result) := by
  cases result with
  | error reason => exact blames_throw reason
  | ok a => exact blames_pure a

theorem blames_ofResolving (p : Resolving α) : Blames (ofResolving p) := by
  refine Program.Promises.bind p.run.promises_anything fun r _ => ?_
  intro e he
  cases r <;> cases he
  exact .inr ⟨_, rfl⟩

theorem blames_bind {g : Generating α} {f : α → Generating β} (h : Blames g)
    (after : ∀ a, Blames (f a)) : Blames (g >>= f) := by
  refine Program.Promises.bind h fun r blamed => ?_
  cases r with
  | error e =>
    intro e' he
    cases he
    exact blamed e rfl
  | ok a => exact after a

end Generating

open Generating PassCalls

theorem Kernel.blames (k : Kernel) : Blames k.generate := by
  unfold generate
  cases k.spec.template with
  | some t => exact blames_ofExcept _
  | none =>
    cases k.spec.templateRef with
    | none => exact blames_throw _
    | some ref =>
      refine blames_bind (blames_ofResolving _) fun found => ?_
      cases found.spec.template with
      | none => exact blames_throw _
      | some t => exact blames_ofExcept _

theorem Parent.blames (p : Parent) (d : Defaults) : Blames (p.generate d) := by
  cases p with
  | gateway g => exact blames_bind (blames_ofResolving _) fun _ => blames_pure _
  | kernelSpec k => exact blames_pure _
  | kernel k => exact k.blames
  | notebook n => exact blames_ofExcept _

def Parent.passOverApi (p : Parent) (d : Defaults) : Api.Action (Except ReconcileError PassOutcome) :=
  (runPass p d).run.through overApi

section Pass

variable {σ : Type} {handle : (r : Api.Calls.Request) → σ → Api.Calls.Answer r × σ}

theorem request_unpatched (r : PassCalls.Request) : (overApi r).Promises
    (fun r : Api.Request => r.method ≠ .patch) fun _ => True := by
  cases r with
  | inl l =>
    refine (Api.lookup_promises l).mono (fun r h patches => ?_) fun _ h => h
    cases h.2.symm.trans patches
  | inr call =>
    refine (Api.call_promises call).mono (fun r h patches => ?_) fun _ h => h
    exact Api.methodOf_ne_patch call (h.2.symm.trans patches)

/-- A pass patches nothing; only the status of the parent is patched, after it. -/
theorem passOverApi_unpatched (p : Parent) (d : Defaults) : (p.passOverApi d).Promises
    (fun r : Api.Request => r.method ≠ .patch) fun _ => True :=
  (runPass p d).run.promises_anything.through fun r _ => request_unpatched r

theorem generating_promises (p : Parent) (d : Defaults) :
    ((generating (p.generate d)).through overApi).Promises
      (fun r : Api.Request => ¬ r.ForChild ∧ r.method = .get)
      fun r => ∀ e, r = .error e → (∃ reason, e = .validation reason) ∨ ∃ cause, e = .reference cause := by
  have looks : (generating (p.generate d)).Promises (fun r => ∃ l, r = lookup l) _ :=
    (p.blames d).through fun l _ => ⟨⟨l, rfl⟩, fun _ => trivial⟩
  refine looks.through ?_
  rintro _ ⟨l, rfl⟩
  exact Api.lookup_promises l

theorem acting_late (owner : OwnerReference) (set : ChildSet) :
    ((acting (converge owner set).run).through overApi).Promises (fun _ : Api.Request => True)
      fun r => ∀ e, r = .error e → ¬ e.Early := by
  have acted : (acting (converge owner set).run).Promises (fun _ => True) Converge.FromStore :=
    (Converge.children_promises owner {} set.toList).through fun _ _ => ⟨trivial, fun _ => trivial⟩
  have sent := acted.through fun r _ => (overApi r).promises_anything
  refine sent.mono (fun _ h => h) fun result failed e he => ?_
  obtain ⟨cause, rfl⟩ := failed e he
  exact ReconcileError.not_early_ofStore cause

/-- A pass that fails early has read references at most, and not even these when the parent cannot own
anything. -/
theorem early_pass_reads {p : Parent} {d : Defaults} {s : σ} {e : ReconcileError} (early : e.Early)
    (failed : ((p.passOverApi d).run handle s).value = .error e) :
    (∀ r ∈ (p.passOverApi d).requests handle s, ¬ r.ForChild ∧ r.method = .get) ∧
      ∀ object, e = .missingUid object → (p.passOverApi d).requests handle s = [] := by
  cases owned : p.owner? with
  | none =>
    have stops : p.passOverApi d = .done (.error (.missingUid p.ref)) := by
      rw [Parent.passOverApi, runPass, owned]
      rfl
    rw [stops]
    exact ⟨nofun, fun _ _ => rfl⟩
  | some owner =>
    rw [Parent.passOverApi, runPass_run d owned, Program.through_bind, Program.requests_bind]
    rw [Parent.passOverApi, runPass_run d owned, Program.through_bind, Program.value_bind] at failed
    have looks := generating_promises p d
    generalize (generating (p.generate d)).through overApi = generation at failed looks ⊢
    have blamed : ∀ e, (generation.run handle s).value = .error e →
        (∃ reason, e = .validation reason) ∨ ∃ cause, e = .reference cause := looks.value
    cases given : (generation.run handle s).value with
    | error e' =>
      rw [given] at failed blamed
      cases failed
      refine ⟨fun r made => ?_, ?_⟩
      · rw [Program.through, Program.requests, List.append_nil] at made
        exact looks.of_mem made
      · rintro object rfl
        obtain ⟨_, none⟩ | ⟨_, none⟩ := blamed _ rfl <;> cases none
    | ok set =>
      rw [given] at failed
      dsimp only at failed
      rw [Program.through_bind, Program.value_bind] at failed
      split at failed
      · next e' ended =>
        cases failed
        exact absurd early ((acting_late owner set).value _ ended)
      · cases failed

end Pass

end JupyterWorkloads
