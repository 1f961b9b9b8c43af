import JupyterWorkloads.Proofs.Converge.Fixpoint
import JupyterWorkloads.Proofs.Store.Clients

/-! What others put on an object, and what a replacement makes of it. Labels, annotations, owners and the
addresses of a service stay on the object; its finalizers and everything in its body are replaced by what
was generated. -/
namespace JupyterWorkloads

namespace Child

def label? (c : Child) (name : String) : Option String := (c.metadata.labels.getD ∅).get? name

def annotation? (c : Child) (name : String) : Option String :=
  (c.metadata.annotations.getD ∅).get? name

def finalizers (c : Child) : List String := c.metadata.finalizers.getD []

def addresses : Child → Option (Option String × Option (List String))
  | .service o => o.spec.map fun spec => (spec.clusterIP, spec.clusterIPs)
  | _ => none

/-- An object without its metadata, its status and its addresses. -/
def body : Child → Child
  | .serviceAccount o => .serviceAccount { o with metadata := default }
  | .roleBinding o => .roleBinding { o with metadata := default }
  | .configMap o => .configMap { o with metadata := default }
  | .deployment o => .deployment { o with metadata := default, status := none }
  | .service o =>
    .service { o with metadata := default, spec := o.spec.map ServiceSpec.unaddressed }

/-- What a replacement stores: the identity of the live object and what others put on it stay, the body
is the desired one, and the owner is listed once. -/
structure LaidOver (owner : OwnerReference) (live desired stored : Child) : Prop where
  uid : stored.metadata.uid = live.metadata.uid
  label : ∀ name, stored.label? name = (desired.label? name).or (live.label? name)
  annotation : ∀ name, stored.annotation? name = (desired.annotation? name).or (live.annotation? name)
  foreign : stored.owners.filter (fun o => o.uid ≠ owner.uid) =
    live.owners.filter (fun o => o.uid ≠ owner.uid)
  own : stored.owners.filter (fun o => o.uid = owner.uid) = [owner]
  /-- What stood there may be of another kind when another client put it under the key. -/
  addresses : live.kind = desired.kind → stored.addresses = live.addresses
  body : stored.body = desired.body

/-- The object has what the server gives to all that it admits: a uid, and an address if it is a
service. -/
structure Allocated (c : Child) : Prop where
  uid : ∃ uid, c.metadata.uid = some uid
  address : ∀ o, c = .service o → ∃ spec address, o.spec = some spec ∧ spec.clusterIP = some address

open Store.Memory

theorem exists_address_allocate (version : Nat) (spec : ServiceSpec) :
    ∃ address, (allocate version spec).clusterIP = some address := by
  unfold allocate
  cases given : spec.clusterIP with
  | none => exact ⟨_, rfl⟩
  | some address => exact ⟨address, given⟩

theorem allocated_admitted (version : Nat) (c : Child) : (admitted version c).Allocated where
  uid := by
    rw [metadata_admitted]
    cases c.metadata.uid with
    | none => exact ⟨_, rfl⟩
    | some uid => exact ⟨uid, rfl⟩
  address o ho := by
    cases c with
    | service s =>
      cases ho
      obtain ⟨address, given⟩ := exists_address_allocate version (s.spec.getD default)
      exact ⟨_, address, rfl, given⟩
    | _ => cases ho

theorem Embodies.body_eq {live desired : Child} (h : live.Embodies desired) :
    live.body = desired.body := by
  cases live <;> cases desired <;> try exact h.elim
  · simp only [body, show _ = _ from h]
  · simp only [body, h.1, h.2]
  · simp only [body, h.1, h.2]
  · simp only [body, h.1]
  · obtain ⟨spec, addressed, given, present, erased⟩ := h
    simp only [body, given, present, ← erased]
    rfl

section Replaced

variable (version : Nat) {live : Child} (desired : Child) (owner : OwnerReference)

theorem finalizers_created : (created version desired).finalizers = desired.finalizers := by
  rw [finalizers, metadata_created, finalizers]

theorem finalizers_replaced : (replaced version live desired owner).finalizers = desired.finalizers := by
  rw [finalizers, metadata_replaced, metadata_replacement, finalizers]

theorem finalizers_prepare (c : Child) : (c.prepare owner).finalizers = c.finalizers := by
  rw [finalizers, metadata_prepare, finalizers]

theorem label?_prepare (c : Child) (name : String) : (c.prepare owner).label? name = c.label? name := by
  rw [label?, metadata_prepare, label?]

theorem addresses_replaced {desired : Child} (fresh : desired.Fresh) (allocated : live.Allocated)
    (kind : live.kind = desired.kind) :
    (replaced version live desired owner).addresses = live.addresses := by
  cases live <;> cases desired <;> try cases kind
  all_goals try rfl
  rename_i live desired
  obtain ⟨spec, address, present, given⟩ := allocated.address live rfl
  obtain ⟨_, wanted, _⟩ := fresh.exists_spec
  obtain ⟨_, theirs⟩ := live
  obtain ⟨_, ours⟩ := desired
  cases present
  cases wanted
  simp [replaced, admitted, fillIn, carryOver, replacement, keepAddresses, mapMetadata, withMetadata,
    metadata, addresses, allocate, given]

theorem laidOver_replaced {desired : Child} (fresh : desired.Fresh) (allocated : live.Allocated) :
    LaidOver owner live desired (replaced version live desired owner) where
  uid := by
    obtain ⟨uid, given⟩ := allocated.uid
    rw [metadata_replaced, given]
    rfl
  label name := by
    rw [label?, metadata_replaced, metadata_replacement]
    exact Table.get?_union _ _ name
  annotation name := by
    rw [annotation?, metadata_replaced, metadata_replacement]
    exact Table.get?_union _ _ name
  foreign := by
    rw [owners_replaced, List.filter_append, List.filter_filter]
    simp
  own := by
    rw [owners_replaced, List.filter_append, List.filter_filter]
    simp
  addresses := addresses_replaced version owner fresh allocated
  body := (embodies_replaced version live owner fresh).body_eq

end Replaced

end Child

namespace Store.Memory

variable {m : Memory} {key other : ChildKey} {live : Child}

theorem object?_of_put {child : Child} (present : (m.put key child).2.object? other = some live) :
    m.object? other = some live ∨ live.Allocated := by
  rw [object?_put] at present
  split at present
  · cases present
    exact .inr (Child.allocated_admitted _ child)
  · exact .inl present

/-- Every edit stores what was stored before or what the server admitted. -/
theorem object?_of_apply {e : Edit} (present : (e.apply m).object? key = some live) :
    m.object? key = some live ∨ live.Allocated := by
  cases e.effect m with
  | stores _ _ _ _ after =>
    rw [after] at present
    exact object?_of_put present
  | deletes is =>
    subst is
    simp only [Edit.apply, object?_delete] at present
    split at present
    · cases present
    · exact .inl present
  | refused _ same => exact .inl (same ▸ present)

theorem Reachable.allocated (h : Reachable m) (present : m.object? key = some live) :
    live.Allocated := by
  induction h with
  | empty => cases present
  | edit e _ ih =>
    rcases object?_of_apply present with before | allocated
    · exact ih before
    · exact allocated
  | hide _ _ ih => exact ih present
  | failWritesFor _ _ ih => exact ih present

end Store.Memory

namespace Converge

open Store Memory

variable {owner : OwnerReference} {m m' : Memory} {report : Report}

section Settlement

variable {version : Nat} {desired : Child}

theorem creation_error {slot : Option Child} {e : ReconcileError}
    (h : (creation m version desired report slot).1 = .error e) : desired.kind ∈ m.failing := by
  by_contra works
  cases slot <;> simp [creation, works] at h

theorem settlement_error {e : ReconcileError}
    (h : (settlement m version owner report desired).1 = .error e) : desired.kind ∈ m.failing := by
  unfold settlement at h
  split at h
  · exact creation_error h
  · split at h
    · cases h
    · split at h
      · exact creation_error h
      · split at h
        · assumption
        · cases h

theorem settlement_drifted {live : Child} (read : m.get desired.key = some live)
    (drifted : live.isConverged desired owner = false) (kept : Child.roleChanged live desired = false) :
    (∃ e, settlement m version owner report desired = (.error e, some live)) ∨
      desired.kind ∉ m.failing ∧ ∃ next, settlement m version owner report desired =
        (.ok next, some (Child.replaced version live desired owner)) := by
  simp only [settlement, read, drifted, kept, Bool.false_eq_true, if_false]
  by_cases fails : desired.kind ∈ m.failing
  · exact .inl ⟨_, if_pos fails⟩
  · exact .inr ⟨fails, _, if_neg fails⟩

theorem creation_stored {slot : Option Child} {stored : Child}
    (h : (creation m version desired report slot).2 = some stored) :
    slot = some stored ∨ stored = Child.created version desired := by
  unfold creation at h
  split at h
  · exact .inl h
  · split at h
    · exact .inl h
    · exact .inr (Option.some.inj h).symm

theorem settlement_stored {stored : Child}
    (h : (settlement m version owner report desired).2 = some stored) :
    m.object? desired.key = some stored ∨ stored = Child.created version desired ∨
      ∃ live, stored = Child.replaced version live desired owner := by
  unfold settlement at h
  split at h
  · exact (creation_stored h).imp_right .inl
  · rename_i live read
    have present := object?_of_get read
    split at h
    · exact .inl (present.trans h)
    · split at h
      · rcases creation_stored h with none | made
        · cases none
        · exact .inr (.inl made)
      · split at h
        · exact .inl (present.trans h)
        · exact .inr (.inr ⟨live, (Option.some.inj h).symm⟩)

end Settlement

section Passed

variable {cs : List Child} {result : Except ReconcileError Report} {c : Child}

/-- Every child came out as its own outcome, or the pass had ended before it. -/
theorem Passed.outcome (h : Passed owner m m' report cs result) (hc : c ∈ cs) :
    (∃ version before r, (r, m'.object? c.key) = settlement m version owner before (c.prepare owner) ∧
      ∀ e, r = .error e → result = .error e) ∨
    m'.object? c.key = m.object? c.key ∧ (∃ e, result = .error e) ∧ ∃ d ∈ cs, d.kind ∈ m.failing := by
  induction h with
  | nil => cases hc
  | @stop report d rest version e _ out others =>
    rcases List.mem_cons.mp hc with rfl | later
    · exact .inl ⟨version, report, .error e, out, fun _ => id⟩
    · have fails : d.kind ∈ m.failing :=
        Child.kind_prepare d owner ▸ settlement_error (congrArg Prod.fst out).symm
      exact .inr ⟨others c later, ⟨e, rfl⟩, d, List.mem_cons_self, fails⟩
  | @step report next d rest version result _ out _ ih =>
    rcases List.mem_cons.mp hc with rfl | later
    · exact .inl ⟨version, report, .ok next, out, nofun⟩
    · refine (ih later).imp_right ?_
      rintro ⟨same, error, other, ho, fails⟩
      exact ⟨same, error, other, .tail _ ho, fails⟩

theorem Passed.drifted (h : Passed owner m m' report cs result) (hc : c ∈ cs) {live : Child}
    (read : m.get c.key = some live) (drifted : live.isConverged (c.prepare owner) owner = false)
    (kept : Child.roleChanged live (c.prepare owner) = false) :
    (c.kind ∉ m.failing ∧
      ∃ version, m'.object? c.key = some (.replaced version live (c.prepare owner) owner)) ∨
    m'.object? c.key = some live ∧ (∃ e, result = .error e) ∧ ∃ d ∈ cs, d.kind ∈ m.failing := by
  rcases h.outcome hc with ⟨version, before, r, out, ends⟩ | ⟨same, early⟩
  · have read' : m.get (c.prepare owner).key = some live := by rwa [Child.key_prepare]
    rcases settlement_drifted read' drifted kept with ⟨e, failed⟩ | ⟨works, next, done⟩
    · obtain ⟨first, second⟩ := Prod.mk.inj (out.trans failed)
      have fails : c.kind ∈ m.failing :=
        Child.kind_prepare c owner ▸ settlement_error (congrArg Prod.fst failed)
      exact .inr ⟨second, ⟨e, ends e first⟩, c, hc, fails⟩
    · rw [Child.kind_prepare] at works
      exact .inl ⟨works, version, congrArg Prod.snd (out.trans done)⟩
  · exact .inr ⟨same.trans (object?_of_get read), early⟩

theorem Passed.finalizers (h : Passed owner m m' report cs result) (hc : c ∈ cs) {stored : Child}
    (present : m'.object? c.key = some stored) :
    m.object? c.key = some stored ∨ stored.finalizers = c.finalizers := by
  rcases h.outcome hc with ⟨version, before, r, out, _⟩ | ⟨same, _⟩
  · have made : (settlement m version owner before (c.prepare owner)).2 = some stored := by
      rw [← out, present]
    rcases settlement_stored made with held | rfl | ⟨live, rfl⟩
    · exact .inl (by rwa [Child.key_prepare] at held)
    · exact .inr (by rw [Child.finalizers_created, Child.finalizers_prepare])
    · exact .inr (by rw [Child.finalizers_replaced, Child.finalizers_prepare])
  · exact .inl (same.symm.trans present)

end Passed

section Converged

variable {p : Parent} {d : Defaults} {resolver : Resolver} {set : ChildSet} {c live stored : Child}
  (given : (Generating.resolve resolver (p.generate d)).value = .ok set) (owner : OwnerReference)
  (hc : c ∈ set.toList)

include given hc

/-- A drifted object is replaced by the desired one laid over it. It stays as it is only when the pass
fails at a kind whose objects cannot be written. -/
theorem drifted_is_laid_over (reachable : Reachable m) (read : m.get c.key = some live)
    (drifted : live.isConverged (c.prepare owner) owner = false)
    (kept : Child.roleChanged live (c.prepare owner) = false) :
    ∃ stored, (m.converge owner set).state.object? c.key = some stored ∧
      (Child.LaidOver owner live (c.prepare owner) stored ∨
        stored = live ∧ (∃ e, (m.converge owner set).value = .error e) ∧
          ∃ d ∈ set.toList, d.kind ∈ m.failing) := by
  have generated := Parent.generatedFor given
  have allocated := reachable.allocated (object?_of_get read)
  obtain ⟨passed, _⟩ := converge_settles generated m owner
  rcases passed.drifted hc read drifted kept with ⟨_, version, present⟩ | ⟨present, failed⟩
  · have fresh := (generated.fresh hc).prepare owner
    exact ⟨_, present, .inl (Child.laidOver_replaced version owner fresh allocated)⟩
  · exact ⟨live, present, .inr ⟨rfl, failed⟩⟩

/-- A pass leaves the object of a child alone or takes all its finalizers away, so an object keeps its
finalizers when it is left alone or has none, and only then. -/
theorem finalizers_stay_iff (before : m.object? c.key = some live)
    (after : (m.converge owner set).state.object? c.key = some stored) :
    (stored = live ∨ stored.finalizers = []) ∧
      ((∀ f ∈ live.finalizers, f ∈ stored.finalizers) ↔ stored = live ∨ live.finalizers = []) := by
  have generated := Parent.generatedFor given
  have bare : c.finalizers = [] := by
    rw [Child.finalizers, generated.metadata c hc]
    rfl
  obtain ⟨passed, _⟩ := converge_settles generated m owner
  have became : stored = live ∨ stored.finalizers = [] := by
    rcases passed.finalizers hc after with held | taken
    · exact .inl (Option.some.inj (held.symm.trans before))
    · exact .inr (taken.trans bare)
  refine ⟨became, ?_, ?_⟩
  · intro stay
    refine became.imp_right fun none => ?_
    rw [none] at stay
    exact List.eq_nil_iff_forall_not_mem.mpr fun f hf => List.not_mem_nil (stay f hf)
  · rintro (rfl | none) f hf
    · exact hf
    · rw [none] at hf
      cases hf

end Converged

def sharedService : Child := .service {
  metadata := { (default : ObjectMeta) with
    annotations := some (Table.ofList [("note", "keep")])
    labels := some (Table.ofList [("gateway", "other"), ("team", "ml")])
    name := some "lab"
    ns := some "team"
    ownerReferences := some [
      { (default : OwnerReference) with uid := "1" },
      { (default : OwnerReference) with uid := "9" }]
    uid := some "service" }
  spec := some { (default : ServiceSpec) with
    clusterIP := some "10.0.0.7"
    clusterIPs := some ["10.0.0.7"]
    type := some "NodePort" } }

theorem shared_service_keeps_its_team :
    let r := Round.ofGateway "lab" "1"
    let m := (Memory.empty.insert sharedService).2
    let c : Child := .service ((Gateway.plain "team" "lab" "1").service default)
    ∃ live stored, m.get c.key = some live ∧
      (m.converge r.owner r.set).state.object? c.key = some stored ∧
        Child.LaidOver r.owner live (c.prepare r.owner) stored ∧ stored.label? "team" = some "ml" ∧
          stored.addresses = some (some "10.0.0.7", some ["10.0.0.7"]) := by
  intro r m c
  have reachable : Reachable m := .edit (.insert sharedService) .empty
  obtain ⟨live, read⟩ : ∃ live, m.get c.key = some live := ⟨_, rfl⟩
  have drifted : live.isConverged (c.prepare r.owner) r.owner = false := by
    cases read
    rfl
  have kept : Child.roleChanged live (c.prepare r.owner) = false := by
    cases read
    rfl
  have listed : c ∈ r.set.toList := .tail _ (.tail _ (.tail _ (.head _)))
  obtain ⟨stored, present, laid | ⟨_, _, d, _, fails⟩⟩ :=
    drifted_is_laid_over r.given r.owner listed reachable read drifted kept
  · refine ⟨live, stored, read, present, laid, ?_, ?_⟩
    · rw [laid.label, Child.label?_prepare]
      cases read
      rfl
    · have kind : live.kind = (c.prepare r.owner).kind := by
        rw [Child.kind_prepare]
        cases read
        rfl
      rw [laid.addresses kind]
      cases read
      rfl
  · cases fails

theorem finalizer_stays_while_writes_fail :
    let r := Round.ofGateway "lab" "1"
    let m := (Memory.empty.insert Child.stray).2.failWritesFor .serviceAccount
    let c : Child := .serviceAccount (Gateway.plain "team" "lab" "1").serviceAccount
    ∃ live stored, m.object? c.key = some live ∧ live.finalizers = ["backup"] ∧
      (m.converge r.owner r.set).state.object? c.key = some stored ∧
        ∀ f ∈ live.finalizers, f ∈ stored.finalizers := by
  intro r m c
  obtain ⟨live, read⟩ : ∃ live, m.get c.key = some live := ⟨_, rfl⟩
  have before := object?_of_get read
  have drifted : live.isConverged (c.prepare r.owner) r.owner = false := by
    cases read
    rfl
  have kept : Child.roleChanged live (c.prepare r.owner) = false := by
    cases read
    rfl
  obtain ⟨passed, _⟩ := converge_settles r.generated m r.owner
  rcases passed.drifted (.head _) read drifted kept with ⟨works, _⟩ | ⟨after, _⟩
  · exact absurd (List.mem_singleton_self _) works
  · have stays := finalizers_stay_iff r.given r.owner (.head _) before after
    exact ⟨live, live, before, by cases read; rfl, after, stays.2.mpr (.inl rfl)⟩

/-- The replacement of the stray account has lost the finalizer that its owner put on it. -/
theorem finalizer_is_lost_by_replacement :
    let r := Round.ofGateway "lab" "1"
    let m := (Memory.empty.insert Child.stray).2
    let c : Child := .serviceAccount (Gateway.plain "team" "lab" "1").serviceAccount
    Reachable m ∧ c ∈ r.set.toList ∧ ∃ live version,
      m.object? c.key = some live ∧ "backup" ∈ live.finalizers ∧
        (m.converge r.owner r.set).state.object? c.key =
          some (.replaced version live (c.prepare r.owner) r.owner) ∧
            "backup" ∉ (Child.replaced version live (c.prepare r.owner) r.owner).finalizers := by
  intro r m c
  obtain ⟨live, read⟩ : ∃ live, m.get c.key = some live := ⟨_, rfl⟩
  have drifted : live.isConverged (c.prepare r.owner) r.owner = false := by
    cases read
    rfl
  have kept : Child.roleChanged live (c.prepare r.owner) = false := by
    cases read
    rfl
  refine ⟨.edit (.insert Child.stray) .empty, .head _, live, ?_⟩
  obtain ⟨passed, _⟩ := converge_settles r.generated m r.owner
  rcases passed.drifted (.head _) read drifted kept with ⟨_, version, present⟩ | ⟨_, _, d, _, fails⟩
  · refine ⟨version, object?_of_get read, ?_, present, ?_⟩
    · cases read
      exact List.mem_singleton_self "backup"
    · rw [Child.finalizers_replaced, Child.finalizers_prepare]
      exact List.not_mem_nil
  · cases fails

end Converge

end JupyterWorkloads
