import JupyterWorkloads.Proofs.Converge.Fixpoint
import JupyterWorkloads.Proofs.Pass.Run

/-! The status of a parent reaches a fixpoint. A status that a pass tells makes the parent change and so
causes the next pass; that one finds nothing to write and nothing to tell. -/
namespace JupyterWorkloads

open Store Memory

namespace WorkloadStatus

/-- The status says nothing but the counts of the deployment. -/
structure Mirrors (s : WorkloadStatus) (o : Deployment) : Prop where
  message : s.message = ""
  replicas : s.replicas = o.status.bind (·.replicas)
  readyReplicas : s.readyReplicas = o.status.bind (·.readyReplicas)
  availableReplicas : s.availableReplicas = o.status.bind (·.availableReplicas)
  updatedReplicas : s.updatedReplicas = o.status.bind (·.updatedReplicas)
  unavailableReplicas : s.unavailableReplicas = o.status.bind (·.unavailableReplicas)
  observedGeneration : s.observedGeneration = o.status.bind (·.observedGeneration)

theorem ofDeployment_mirrors (o : Deployment) : (ofDeployment o).Mirrors o := by
  cases given : o.status <;> constructor <;> simp only [ofDeployment, given] <;> rfl

theorem changed?_of_eq {current : Option WorkloadStatus} {next : WorkloadStatus}
    (same : current.getD default = next) : changed? current next = none := if_pos same

theorem changed?_or_getD (current : Option WorkloadStatus) (next : WorkloadStatus) :
    ((changed? current next).or current).getD default = next := by
  unfold changed?
  split
  · assumption
  · rfl

end WorkloadStatus

namespace Parent

def told (p : Parent) (result : Except ReconcileError PassOutcome) : Parent :=
  match p.statusAfter? result with
  | some s => p.withStatus (some s)
  | none => p

section Told

variable (p : Parent) (status : Option WorkloadStatus)

@[simp] theorem kind_withStatus : (p.withStatus status).kind = p.kind := by
  cases p <;> rfl

@[simp] theorem metadata_withStatus : (p.withStatus status).metadata = p.metadata := by
  cases p <;> rfl

@[simp] theorem ref_withStatus : (p.withStatus status).ref = p.ref := by
  cases p <;> rfl

@[simp] theorem owner?_withStatus : (p.withStatus status).owner? = p.owner? := by
  cases p <;> rfl

@[simp] theorem generate_withStatus (d : Defaults) :
    (p.withStatus status).generate d = p.generate d := by
  cases p <;> rfl

theorem withStatus_status? : p.withStatus p.status? = p := by
  cases p <;> rfl

theorem status?_withStatus {p : Parent} (carries : p.kind.hasStatus = true) :
    (p.withStatus status).status? = status := by
  cases p <;> first | rfl | cases carries

theorem told_eq (result : Except ReconcileError PassOutcome) :
    p.told result = p.withStatus ((p.statusAfter? result).or p.status?) := by
  unfold told
  split
  · next s found => rw [found]; rfl
  · next found => rw [found, Option.none_or, withStatus_status?]

theorem status?_told {p : Parent} {result : Except ReconcileError PassOutcome} {next : WorkloadStatus}
    (carries : p.kind.hasStatus = true)
    (tells : p.statusAfter? result = WorkloadStatus.changed? p.status? next) :
    (p.told result).status?.getD default = next := by
  rw [told_eq, status?_withStatus _ carries, tells, WorkloadStatus.changed?_or_getD]

/-- A pass that fails again the same way has nothing more to tell. -/
theorem statusAfter?_told_of_error (e : ReconcileError) :
    (p.told (.error e)).statusAfter? (.error e) = none := by
  cases e with
  | validation reason =>
    have kind : (p.told (.error (.validation reason))).kind = p.kind := by
      rw [told_eq, kind_withStatus]
    show validationStatus? _ reason = none
    rw [validationStatus?, kind]
    split
    · next carries =>
      have tells : p.statusAfter? (.error (.validation reason)) =
          WorkloadStatus.withMessage? p.status? reason.message := if_pos carries
      refine WorkloadStatus.changed?_of_eq ?_
      rw [status?_told carries tells]
    · rfl
  | _ => rfl

end Told

end Parent

namespace Store.Memory

/-- What stops a pass before its convergence depends neither on the store nor on the status. -/
theorem pass_stops_or_generates (p : Parent) (d : Defaults) (resolver : Resolver) :
    (∃ e, ∀ (m : Memory) (status : Option WorkloadStatus),
      let q := p.withStatus status
      (m.pass resolver d q).value = .error e ∧ (m.pass resolver d q).state = m ∧
        ∀ r ∈ m.passRequests resolver d q, PassCalls.Reads r) ∨
    ∃ owner set, p.owner? = some owner ∧
      (Generating.resolve resolver (p.generate d)).value = .ok set := by
  cases owned : p.owner? with
  | none =>
    refine .inl ⟨.missingUid p.ref, fun m status => ?_⟩
    have unowned : (p.withStatus status).owner? = none := by
      rw [Parent.owner?_withStatus, owned]
    obtain ⟨value, state, requests⟩ := m.pass_unowned resolver d unowned
    rw [Parent.ref_withStatus] at value
    refine ⟨value, state, ?_⟩
    intro r hr
    rw [requests] at hr
    exact absurd hr List.not_mem_nil
  | some owner =>
    cases given : (Generating.resolve resolver (p.generate d)).value with
    | ok set => exact .inr ⟨owner, set, rfl, rfl⟩
    | error e =>
      refine .inl ⟨e, fun m status => ?_⟩
      have owned' : (p.withStatus status).owner? = some owner := by
        rw [Parent.owner?_withStatus, owned]
      have given' : (Generating.resolve resolver ((p.withStatus status).generate d)).value =
          .error e := by
        rw [Parent.generate_withStatus, given]
      obtain ⟨value, state, requests⟩ := m.pass_ungenerated owned' given'
      refine ⟨value, state, ?_⟩
      intro r hr
      rw [requests] at hr
      obtain ⟨l, _, rfl⟩ := List.mem_map.mp hr
      exact .inl ⟨l, rfl⟩

variable {m : Memory} (hidden : m.hidden = []) (works : m.failing = []) {resolver : Resolver}
  {d : Defaults} {p : Parent} {owner : OwnerReference} {set : ChildSet}
  (owned : p.owner? = some owner)
  (given : (Generating.resolve resolver (p.generate d)).value = .ok set)

include hidden works owned given

theorem pass_reports : ∃ report, (m.pass resolver d p).value = .ok ⟨report, report.status? p⟩ ∧
    (p.kind.hasStatus = true → ∃ o, report.deployment = some o ∧
      (m.pass resolver d p).state.object? ⟨.deployment, p.ns, p.name⟩ = some (.deployment o)) := by
  have generated := Parent.generatedFor given
  obtain ⟨value, state, _⟩ := pass_generated m owned given
  have succeeds := Converge.converge_succeeds generated hidden works owner
  obtain ⟨report, ends⟩ := succeeds.value
  refine ⟨report, by rw [value, ends]; rfl, fun carries => ?_⟩
  have passed := (Converge.converge_settles generated m owner).1
  obtain ⟨known, reported⟩ := passed.deployment hidden works ends
  have kinds : ChildKind.deployment ∈ set.toList.map Child.kind := by
    rw [generated.kinds]
    cases kind : p.kind <;> first | decide | (rw [kind] at carries; cases carries)
  obtain ⟨c, hc, kind⟩ := List.mem_map.mp kinds
  obtain ⟨o, seen⟩ := Option.isSome_iff_exists.mp (reported (.inr ⟨c, hc, kind⟩))
  refine ⟨o, seen, ?_⟩
  obtain before | ⟨d, hd, present⟩ := known o seen
  · cases before
  · obtain ⟨version, stored, present', became⟩ := succeeds.became d hd
    have same := Option.some.inj (present'.symm.trans present)
    have kind := became.kind.symm
    rw [same, Child.kind_prepare] at kind
    rw [state, ← present, generated.key_eq hd, kind]
    rfl

/-- Once a pass has succeeded, a pass over the same parent, whatever its status, only reads. -/
theorem next_pass_reads (status : Option WorkloadStatus) :
    let after := (m.pass resolver d p).state
    (∀ r ∈ after.passRequests resolver d (p.withStatus status), PassCalls.Reads r) ∧
      (after.pass resolver d (p.withStatus status)).state = after ∧
        after.hidden = [] ∧ after.failing = [] := by
  intro after
  have generated := Parent.generatedFor given
  have controls := Parent.controller_of_owner? owned
  have succeeds := Converge.converge_succeeds generated hidden works owner
  have reached : after = (m.converge owner set).state := (pass_generated m owned given).2.1
  obtain ⟨reads, state, _⟩ := Converge.children_rest {} fun c hc => succeeds.rests generated controls hc
  rw [← reached] at reads state
  have owned' : (p.withStatus status).owner? = some owner := by
    rw [Parent.owner?_withStatus, owned]
  have given' : (Generating.resolve resolver ((p.withStatus status).generate d)).value = .ok set := by
    rw [Parent.generate_withStatus, given]
  obtain ⟨_, state', requests⟩ := pass_generated after owned' given'
  refine ⟨?_, state'.trans state, reached ▸ succeeds.hidden, reached ▸ succeeds.failing⟩
  intro r hr
  rw [requests, JupyterWorkloads.converge, reads] at hr
  rcases List.mem_append.mp hr with hr | hr
  · obtain ⟨l, _, rfl⟩ := List.mem_map.mp hr
    exact .inl ⟨l, rfl⟩
  · obtain ⟨call, hc, rfl⟩ := List.mem_map.mp hr
    obtain ⟨c, _, rfl⟩ := List.mem_map.mp hc
    exact .inr ⟨c.key, rfl⟩

theorem pass_tells (carries : p.kind.hasStatus = true) :
    ∃ o, (m.pass resolver d p).state.object? ⟨.deployment, p.ns, p.name⟩ = some (.deployment o) ∧
      (p.told (m.pass resolver d p).value).status?.getD default = WorkloadStatus.ofDeployment o := by
  obtain ⟨report, ends, reports⟩ := pass_reports hidden works owned given
  obtain ⟨o, seen, present⟩ := reports carries
  refine ⟨o, present, Parent.status?_told carries ?_⟩
  rw [ends, Parent.statusAfter?, Report.status?, if_pos carries, seen]
  rfl

/-- A pass that leaves the store as it was has nothing to tell to a parent that carries the counts of the
stored deployment. -/
theorem pass_tells_nothing (rests : (m.pass resolver d p).state = m)
    (carried : p.kind.hasStatus = true →
      ∃ o, m.object? ⟨.deployment, p.ns, p.name⟩ = some (.deployment o) ∧
        p.status?.getD default = WorkloadStatus.ofDeployment o) :
    p.statusAfter? (m.pass resolver d p).value = none := by
  obtain ⟨report, ends, reports⟩ := pass_reports hidden works owned given
  rw [ends, Parent.statusAfter?, Report.status?]
  split
  · next carries =>
    obtain ⟨o, present, same⟩ := carried carries
    obtain ⟨o', seen, present'⟩ := reports carries
    rw [rests] at present'
    cases present.symm.trans present'
    rw [seen]
    exact WorkloadStatus.changed?_of_eq same
  · rfl

end Store.Memory

/-- Over a reliable store, the pass that follows a told status writes nothing and tells nothing. What was
told before are the counts of the stored deployment with no message, or, for an invalid spec, the reason
alone next to the counts as they were. -/
theorem status_reaches_fixpoint (p : Parent) (d : Defaults) (resolver : Resolver) {m : Memory}
    (hidden : m.hidden = []) (works : m.failing = []) :
    let first := m.pass resolver d p
    let told := p.told first.value
    let second := first.state.pass resolver d told
    ((∀ r ∈ first.state.passRequests resolver d told, PassCalls.Reads r) ∧
      second.state = first.state ∧ told.statusAfter? second.value = none) ∧
    (p.kind.hasStatus = true →
      (∀ outcome, first.value = .ok outcome →
        ∃ o, first.state.object? ⟨.deployment, p.ns, p.name⟩ = some (.deployment o) ∧
          (told.status?.getD default).Mirrors o) ∧
      ∀ reason, first.value = .error (.validation reason) →
        told.status?.getD default = { p.status?.getD default with message := reason.message }) := by
  intro first told second
  let status := (p.statusAfter? first.value).or p.status?
  have shape : told = p.withStatus status := p.told_eq first.value
  have invalid : p.kind.hasStatus = true → ∀ reason, first.value = .error (.validation reason) →
      told.status?.getD default = { p.status?.getD default with message := reason.message } := by
    intro carries reason failed
    refine Parent.status?_told carries ?_
    rw [failed]
    exact if_pos carries
  rcases pass_stops_or_generates p d resolver with ⟨e, stops⟩ | ⟨owner, set, owned, given⟩
  · have before := stops m p.status?
    have after := stops first.state status
    rw [Parent.withStatus_status?] at before
    rw [← shape] at after
    have failed : first.value = .error e := before.1
    have failed' : second.value = .error e := after.1
    have settled : told.statusAfter? second.value = none := by
      show (p.told first.value).statusAfter? second.value = none
      rw [failed, failed']
      exact p.statusAfter?_told_of_error e
    refine ⟨⟨after.2.2, after.2.1, settled⟩, fun carries => ⟨?_, invalid carries⟩⟩
    intro outcome ends
    cases failed.symm.trans ends
  · have after := next_pass_reads hidden works owned given status
    rw [← shape] at after
    obtain ⟨reads, state, hidden', works'⟩ := after
    have tells := pass_tells hidden works owned given
    have settled : told.statusAfter? second.value = none := by
      have owned' : told.owner? = some owner := by rw [shape, Parent.owner?_withStatus, owned]
      have given' : (Generating.resolve resolver (told.generate d)).value = .ok set := by
        rw [shape, Parent.generate_withStatus, given]
      have identity : told.metadata = p.metadata := by rw [shape, Parent.metadata_withStatus]
      refine pass_tells_nothing hidden' works' owned' given' state ?_
      rw [show told.kind = p.kind by rw [shape, Parent.kind_withStatus], Parent.ns, Parent.name,
        identity]
      exact tells
    refine ⟨⟨reads, state, settled⟩, fun carries => ⟨?_, invalid carries⟩⟩
    intro outcome _
    obtain ⟨o, present, same⟩ := tells carries
    exact ⟨o, present, same ▸ WorkloadStatus.ofDeployment_mirrors o⟩

theorem message_is_cleared_and_told :
    let unresolved : Resolver := fun l => .error (.notFound l)
    let p : Parent := .gateway { Gateway.plain "team" "lab" "1" with
      status := some { (default : WorkloadStatus) with message := "pod template has no containers" } }
    let q : Parent := .notebook { Notebook.plain "team" "desk" "2" "lab" with spec := default }
    let first := Memory.empty.pass unresolved default p
    let told := p.told first.value
    let failed := Memory.empty.pass unresolved default q
    ((∃ outcome, first.value = .ok outcome) ∧
      (∃ o, first.state.object? ⟨.deployment, "team", "lab"⟩ = some (.deployment o) ∧
        (told.status?.getD default).Mirrors o) ∧
      told.statusAfter? (first.state.pass unresolved default told).value = none) ∧
    failed.value = .error (.validation .emptyNotebook) ∧
      (q.told failed.value).status?.getD default =
        { (default : WorkloadStatus) with
          message := "notebook has neither a gateway nor a template" } := by
  intro unresolved p q first told failed
  have given : (Generating.resolve unresolved (p.generate default)).value = .ok _ :=
    Gateway.resolve_generate rfl default _
  obtain ⟨report, ends, _⟩ := pass_reports (m := Memory.empty) rfl rfl rfl given
  obtain ⟨⟨_, _, quiet⟩, tells⟩ :=
    status_reaches_fixpoint p default unresolved (m := Memory.empty) rfl rfl
  obtain ⟨_, tells'⟩ := status_reaches_fixpoint q default unresolved (m := Memory.empty) rfl rfl
  exact ⟨⟨⟨_, ends⟩, (tells rfl).1 _ ends, quiet⟩, rfl, (tells' rfl).2 .emptyNotebook rfl⟩

end JupyterWorkloads
