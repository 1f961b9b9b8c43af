import JupyterWorkloads.Proofs.Drift.Containment
import JupyterWorkloads.Proofs.Parent.Generation
import JupyterWorkloads.Proofs.Store.Frame
import JupyterWorkloads.Converge

/-! A generated child on its way into the store: prepared for its owner, laid over the live object and
admitted. What is stored holds all that was generated, so the next pass finds it converged. -/
namespace JupyterWorkloads

/-- The spec without the addresses that the server allocates. -/
def ServiceSpec.unaddressed (spec : ServiceSpec) : ServiceSpec :=
  { spec with clusterIP := none, clusterIPs := none }

theorem ChildKind.name_injective {a b : ChildKind} (h : a.name = b.name) : a = b := by
  cases a <;> cases b <;> first | rfl | simp [name] at h

namespace Child

open Store.Memory

section Metadata

@[simp] theorem kind_mapMetadata (f : ObjectMeta → ObjectMeta) (c : Child) :
    (c.mapMetadata f).kind = c.kind :=
  kind_withMetadata _ c

@[simp] theorem metadata_mapMetadata (f : ObjectMeta → ObjectMeta) (c : Child) :
    (c.mapMetadata f).metadata = f c.metadata :=
  metadata_withMetadata _ c

theorem key_congr {a b : Child} (kind : a.kind = b.kind) (ns : a.metadata.ns = b.metadata.ns)
    (name : a.metadata.name = b.metadata.name) : a.key = b.key := by
  simp only [key, Child.ns, Child.name, kind, ns, name]

theorem ref_congr {a b : Child} (h : a.key = b.key) : a.ref = b.ref := by
  simp only [ref, h]

@[simp] theorem withMetadata_withMetadata (m m' : ObjectMeta) (c : Child) :
    (c.withMetadata m).withMetadata m' = c.withMetadata m' := by
  cases c <;> rfl

theorem keepAddresses_withMetadata (live next : Child) (m : ObjectMeta) :
    keepAddresses live (next.withMetadata m) = (keepAddresses live next).withMetadata m := by
  cases live <;> cases next <;> try rfl
  rename_i live next
  rcases live with ⟨_, _ | _⟩ <;> rcases next with ⟨_, _ | _⟩ <;> rfl

end Metadata

section Prepared

variable (c live : Child) (owner : OwnerReference)

theorem prepare_eq : c.prepare owner = c.mapMetadata fun m =>
    { m with
      ownerReferences := some [owner]
      annotations :=
        some ((m.annotations.getD ∅).insert desiredHashAnnotation (c.fingerprint owner)) } := by
  cases c <;> rfl

@[simp] theorem kind_prepare : (c.prepare owner).kind = c.kind := by
  rw [prepare_eq, kind_mapMetadata]

theorem metadata_prepare : (c.prepare owner).metadata =
    { c.metadata with
      ownerReferences := some [owner]
      annotations := some
        ((c.metadata.annotations.getD ∅).insert desiredHashAnnotation (c.fingerprint owner)) } := by
  rw [prepare_eq, metadata_mapMetadata]

@[simp] theorem key_prepare : (c.prepare owner).key = c.key := by
  apply key_congr <;> simp [metadata_prepare]

@[simp] theorem owners_prepare : (c.prepare owner).owners = [owner] := by
  rw [owners, metadata_prepare]
  rfl

@[simp] theorem recordedHash?_prepare :
    (c.prepare owner).recordedHash? = some (c.fingerprint owner) := by
  rw [recordedHash?, metadata_prepare]
  simp

theorem Fresh.prepare {c : Child} (h : c.Fresh) : (c.prepare owner).Fresh where
  generation := by rw [metadata_prepare]; exact h.generation
  version := by rw [metadata_prepare]; exact h.version
  uid := by rw [metadata_prepare]; exact h.uid
  status o ho := by
    cases c with
    | deployment d => cases ho; exact h.status d rfl
    | _ => cases ho
  address o ho := by
    cases c with
    | service s => cases ho; exact h.address s rfl
    | _ => cases ho

@[simp] theorem kind_keepAddresses (next : Child) : (keepAddresses live next).kind = next.kind := by
  unfold keepAddresses
  split
  · split <;> rfl
  · rfl

@[simp] theorem metadata_keepAddresses (next : Child) :
    (keepAddresses live next).metadata = next.metadata := by
  unfold keepAddresses
  split
  · split <;> rfl
  · rfl

@[simp] theorem kind_replacement (desired : Child) :
    (replacement live desired owner).kind = desired.kind := by
  rw [replacement, kind_keepAddresses, kind_mapMetadata]

theorem metadata_replacement (desired : Child) : (replacement live desired owner).metadata =
    { desired.metadata with
      labels := some ((live.metadata.labels.getD ∅).union (desired.metadata.labels.getD ∅))
      ownerReferences := some (live.owners.filter (fun o => o.uid ≠ owner.uid) ++ [owner])
      annotations :=
        some ((live.metadata.annotations.getD ∅).union (desired.metadata.annotations.getD ∅))
      resourceVersion := live.metadata.resourceVersion
      uid := live.metadata.uid } := by
  rw [replacement, metadata_keepAddresses, metadata_mapMetadata]

@[simp] theorem key_replacement (desired : Child) :
    (replacement live desired owner).key = desired.key := by
  apply key_congr <;> simp [metadata_replacement]

end Prepared

section Written

theorem remove_owners (m : ObjectMeta) :
    (encode m).remove "ownerReferences" = encode { m with ownerReferences := none } := by
  refine (Json.remove_record (Member.inOrder_of_names (by simp +decide)) _).trans ?_
  simp [encode, Member.replace, Member.optional]

theorem written (c : Child) : ∃ members, Member.InOrder members ∧
    .required "metadata" c.metadata ∈ members ∧ c.toJson = .record members ∧
      ∀ m, (c.withMetadata m).toJson =
        .record (Member.replace "metadata" (some (encode m)) members) := by
  cases c
  all_goals
    refine ⟨_, ?_, ?_, rfl, ?_⟩
    · exact Member.inOrder_of_names (by simp +decide)
    · simp [metadata]
    · intro m
      simp [Member.replace, toJson, encode, Member.required, withMetadata]

theorem unownedJson_eq (c : Child) :
    c.unownedJson = (c.mapMetadata fun m => { m with ownerReferences := none }).toJson := by
  obtain ⟨members, order, hm, json, json'⟩ := written c
  have known : ∃ m ∈ members, m.name = "metadata" := ⟨_, hm, rfl⟩
  have found : (Json.record members).get? "metadata" = some (encode c.metadata) :=
    Json.get?_record order hm
  unfold unownedJson
  simp only [json, found, remove_owners]
  rw [Json.set_record order known, ← json']
  rfl

theorem written_kind (c : Child) : ∃ members, Member.InOrder members ∧
    .required "kind" c.kind.name ∈ members ∧ c.toJson = .record members := by
  cases c
  all_goals exact ⟨_, Member.inOrder_of_names (by simp +decide), by simp [kind, ChildKind.name], rfl⟩

theorem kind_of_contains {live desired : Child}
    (h : Drift.contains live.toJson desired.toJson = true) : live.kind = desired.kind := by
  obtain ⟨theirs, order, hl, json⟩ := written_kind live
  obtain ⟨ours, _, hd, json'⟩ := written_kind desired
  rw [json, json'] at h
  have names := Drift.contains_member order h hl hd rfl rfl rfl
  apply ChildKind.name_injective
  simpa [encode, Drift.contains, Drift.sameScalar] using names

end Written

/-- The live object has the body of the desired one, but for what the server decides. -/
def Embodies : Child → Child → Prop
  | .serviceAccount live, .serviceAccount desired =>
    live.automountServiceAccountToken = desired.automountServiceAccountToken
  | .roleBinding live, .roleBinding desired =>
    live.roleRef = desired.roleRef ∧ live.subjects = desired.subjects
  | .configMap live, .configMap desired =>
    live.data = desired.data ∧ live.immutable = desired.immutable
  | .deployment live, .deployment desired => live.spec = desired.spec ∧ desired.status = none
  | .service live, .service desired => ∃ spec addressed, desired.spec = some spec ∧
    live.spec = some addressed ∧ addressed.unaddressed = spec
  | _, _ => False

section Embodies

variable {live next desired : Child}

theorem unaddressed_allocate (version : Nat) (spec : ServiceSpec) :
    (allocate version spec).unaddressed = spec.unaddressed := by
  unfold allocate
  split <;> rfl

theorem Fresh.exists_spec {o : Service} (fresh : Fresh (.service o)) :
    ∃ spec, o.spec = some spec ∧ spec.unaddressed = spec ∧ spec.clusterIP = none := by
  obtain ⟨spec, given, address, addresses⟩ := fresh.address o rfl
  refine ⟨spec, given, ?_, address⟩
  rw [ServiceSpec.unaddressed, ← address, ← addresses]

theorem Fresh.embodies (fresh : desired.Fresh) : desired.Embodies desired := by
  cases desired with
  | serviceAccount o => exact rfl
  | roleBinding o => exact ⟨rfl, rfl⟩
  | configMap o => exact ⟨rfl, rfl⟩
  | deployment o => exact ⟨rfl, fresh.status o rfl⟩
  | service o =>
    obtain ⟨spec, given, erased, _⟩ := fresh.exists_spec
    exact ⟨spec, spec, given, given, erased⟩

theorem Fresh.embodies_keepAddresses (fresh : desired.Fresh) :
    (keepAddresses live desired).Embodies desired := by
  cases live <;> cases desired <;> try exact fresh.embodies
  rename_i live desired
  obtain ⟨spec, given, erased, _⟩ := fresh.exists_spec
  obtain ⟨_, spec'⟩ := desired
  cases given
  rcases live with ⟨_, _ | _⟩
  · exact ⟨spec, spec, rfl, rfl, erased⟩
  · exact ⟨spec, _, rfl, rfl, erased⟩

theorem Embodies.fillIn (h : next.Embodies desired) (version : Nat) (m : ObjectMeta) :
    (fillIn version (next.withMetadata m)).Embodies desired := by
  cases next with
  | service o =>
    cases desired with
    | service d =>
      obtain ⟨spec, addressed, given, present, erased⟩ := h
      refine ⟨spec, _, given, rfl, ?_⟩
      rw [unaddressed_allocate, present]
      exact erased
    | _ => exact h.elim
  | _ => cases desired <;> exact h

end Embodies

/-- The live texts are the desired ones, or something with the desired ones laid over it. -/
def Overlaid (live desired : Option StringTable) : Prop :=
  live = desired ∨ ∃ below, live = some (Table.union below (desired.getD ∅))

theorem Overlaid.covers {live desired : Option StringTable} (h : Overlaid live desired)
    (name : String) : Drift.Covers (.optional name live) (.optional name desired) := by
  rcases h with rfl | ⟨below, rfl⟩
  · exact Drift.covers_optional name live
  · cases desired with
    | none => exact Drift.covers_unset name _
    | some texts =>
      apply Drift.covers_table
      intro key v found
      rw [Table.get?_union, Option.getD_some, found]
      rfl

/-- The live metadata is the desired one with more attached, owners aside, and with what the server
decides. -/
structure Extends (live desired : ObjectMeta) : Prop where
  annotations : Overlaid live.annotations desired.annotations
  labels : Overlaid live.labels desired.labels
  finalizers : live.finalizers = desired.finalizers
  generateName : live.generateName = desired.generateName
  name : live.name = desired.name
  ns : live.ns = desired.ns
  generation : desired.generation = none
  version : desired.resourceVersion = none
  uid : desired.uid = none

theorem Extends.contains {live desired : ObjectMeta} (h : Extends live desired) :
    Drift.contains (encode live) (encode { desired with ownerReferences := none }) = true := by
  refine Drift.contains_record (Member.inOrder_of_names (by simp +decide)) ?_
  simp only [h.generation, h.version, h.uid, ← h.finalizers, ← h.generateName, ← h.name, ← h.ns]
  refine .cons (h.annotations.covers _) (.cons (Drift.covers_optional _ _) (.cons
    (Drift.covers_optional _ _) (.cons (Drift.covers_unset _ _) (.cons (h.labels.covers _) (.cons
    (Drift.covers_optional _ _) (.cons (Drift.covers_optional _ _) (.cons (Drift.covers_unset _ _)
    (.cons (Drift.covers_unset _ _) (.cons (Drift.covers_unset _ _) .nil)))))))))

theorem contains_unaddressed (spec : ServiceSpec) :
    Drift.contains (encode spec) (encode spec.unaddressed) = true := by
  refine Drift.contains_record (Member.inOrder_of_names (by simp +decide)) ?_
  exact .cons (Drift.covers_unset _ _) (.cons (Drift.covers_unset _ _)
    (.cons (Drift.covers_optional _ _) (.cons (Drift.covers_optional _ _)
    (.cons (Drift.covers_optional _ _) (.cons (Drift.covers_optional _ _) .nil)))))

theorem Embodies.contains {live desired : Child} (h : live.Embodies desired)
    (m : Extends live.metadata desired.metadata) :
    Drift.contains live.toJson desired.unownedJson = true := by
  rw [unownedJson_eq]
  have identity := Drift.covers_contained "metadata" m.contains
  cases live <;> cases desired <;> try exact h.elim
  all_goals refine Drift.contains_record (Member.inOrder_of_names (by simp +decide)) ?_
  · rename_i live desired
    have body : live.automountServiceAccountToken = desired.automountServiceAccountToken := h
    simp only [← body]
    exact .cons (Drift.covers_required _ _) (.cons (Drift.covers_optional _ _)
      (.cons (Drift.covers_required _ _) (.cons identity .nil)))
  · simp only [← h.1, ← h.2]
    exact .cons (Drift.covers_required _ _) (.cons (Drift.covers_required _ _) (.cons identity
      (.cons (Drift.covers_required _ _) (.cons (Drift.covers_optional _ _) .nil))))
  · simp only [← h.1, ← h.2]
    exact .cons (Drift.covers_required _ _) (.cons (Drift.covers_optional _ _)
      (.cons (Drift.covers_optional _ _) (.cons (Drift.covers_required _ _) (.cons identity .nil))))
  · simp only [← h.1, h.2]
    exact .cons (Drift.covers_required _ _) (.cons (Drift.covers_required _ _) (.cons identity
      (.cons (Drift.covers_optional _ _) (.cons (Drift.covers_unset _ _) .nil))))
  · obtain ⟨spec, addressed, given, present, erased⟩ := h
    simp only [given, present, ← erased]
    have spec := Drift.covers_contained "spec" (contains_unaddressed addressed)
    exact .cons (Drift.covers_required _ _) (.cons (Drift.covers_required _ _) (.cons identity
      (.cons spec .nil)))

/-- The child as a creation stores it. -/
def created (version : Nat) (desired : Child) : Child := admitted version (unversioned desired)

def replaced (version : Nat) (live desired : Child) (owner : OwnerReference) : Child :=
  admitted version (carryOver live (replacement live desired owner))

section Stored

variable (version : Nat) (live desired : Child) (owner : OwnerReference)

@[simp] theorem kind_admitted (c : Child) : (admitted version c).kind = c.kind := by
  cases c <;> rfl

theorem metadata_admitted (c : Child) : (admitted version c).metadata =
    { c.metadata with
      resourceVersion := some (Text.ofNat version)
      uid := c.metadata.uid.or (some ("uid-" ++ Text.ofNat version))
      generation := (admitted version c).metadata.generation } := by
  cases c <;> rfl

theorem metadata_created : (created version desired).metadata =
    { desired.metadata with
      resourceVersion := some (Text.ofNat version)
      uid := desired.metadata.uid.or (some ("uid-" ++ Text.ofNat version))
      generation := (created version desired).metadata.generation } := by
  rw [created, metadata_admitted, unversioned, metadata_mapMetadata]

theorem metadata_replaced : (replaced version live desired owner).metadata =
    { (replacement live desired owner).metadata with
      resourceVersion := some (Text.ofNat version)
      uid := live.metadata.uid.or (some ("uid-" ++ Text.ofNat version))
      generation := (replaced version live desired owner).metadata.generation } := by
  rw [replaced, metadata_admitted, carryOver, metadata_mapMetadata]

@[simp] theorem kind_created : (created version desired).kind = desired.kind := by
  rw [created, kind_admitted, unversioned, kind_mapMetadata]

@[simp] theorem kind_replaced : (replaced version live desired owner).kind = desired.kind := by
  rw [replaced, kind_admitted, carryOver, kind_mapMetadata, kind_replacement]

theorem owners_created : (created version desired).owners = desired.owners := by
  rw [owners, metadata_created, owners]

theorem owners_replaced : (replaced version live desired owner).owners =
    live.owners.filter (fun o => o.uid ≠ owner.uid) ++ [owner] := by
  rw [owners, metadata_replaced, metadata_replacement]
  rfl

theorem recordedHash?_created : (created version desired).recordedHash? = desired.recordedHash? := by
  rw [recordedHash?, metadata_created, recordedHash?]

variable {desired} (fresh : desired.Fresh)

include fresh

theorem extends_created : Extends (created version desired).metadata desired.metadata := by
  rw [metadata_created]
  exact ⟨.inl rfl, .inl rfl, rfl, rfl, rfl, rfl, fresh.generation, fresh.version, fresh.uid⟩

theorem extends_replaced : Extends (replaced version live desired owner).metadata desired.metadata := by
  rw [metadata_replaced, metadata_replacement]
  exact ⟨.inr ⟨_, rfl⟩, .inr ⟨_, rfl⟩, rfl, rfl, rfl, rfl, fresh.generation, fresh.version, fresh.uid⟩

theorem embodies_created : (created version desired).Embodies desired := by
  simp only [created, admitted, unversioned, mapMetadata, withMetadata_withMetadata]
  exact fresh.embodies.fillIn version _

theorem embodies_replaced : (replaced version live desired owner).Embodies desired := by
  simp only [replaced, admitted, carryOver, replacement, mapMetadata, keepAddresses_withMetadata,
    withMetadata_withMetadata]
  exact fresh.embodies_keepAddresses.fillIn version _

end Stored

theorem changesFixed_replacement {live desired : Child} {owner : OwnerReference}
    (fresh : desired.Fresh) (role : roleChanged live desired = false) :
    changesFixed live (replacement live desired owner) = false := by
  rw [replacement, mapMetadata, keepAddresses_withMetadata]
  cases live <;> cases desired <;> try rfl
  · exact role
  · rename_i live desired
    obtain ⟨spec, given, _, address⟩ := fresh.exists_spec
    obtain ⟨_, spec'⟩ := desired
    cases given
    rcases live with ⟨_, _ | _⟩
    · simpa [changesFixed, keepAddresses, withMetadata] using address.symm
    · simp [changesFixed, keepAddresses, withMetadata]

section Converged

variable (version : Nat) (live : Child) {c : Child} {owner : OwnerReference}

theorem isOwnedBy_iff {c : Child} {owner : OwnerReference} : c.isOwnedBy owner = true ↔
    ∃ o ∈ c.owners, o.uid = owner.uid ∧ o.controller = some true := by
  simp only [isOwnedBy, List.any_eq_true, decide_eq_true_eq]

theorem isOwnedBy_of_mem {owner : OwnerReference} (controls : owner.controller = some true) {c : Child}
    (h : owner ∈ c.owners) : c.isOwnedBy owner = true :=
  isOwnedBy_iff.mpr ⟨owner, h, rfl, controls⟩

theorem isConverged_iff {live desired : Child} : live.isConverged desired owner = true ↔
    live.isOwnedBy owner = true ∧ live.recordedHash? = desired.recordedHash? ∧
      Drift.contains live.toJson desired.unownedJson = true := by
  rw [isConverged, Bool.and_eq_true, Bool.and_eq_true, beq_iff_eq, and_assoc]

theorem kind_of_isConverged {live desired : Child} (converged : live.isConverged desired owner = true) :
    live.kind = desired.kind := by
  have holds := (isConverged_iff.mp converged).2.2
  rw [unownedJson_eq] at holds
  exact (kind_of_contains holds).trans (kind_mapMetadata _ desired)

variable (fresh : c.Fresh) (controls : owner.controller = some true)

include fresh controls

theorem isConverged_created :
    (created version (c.prepare owner)).isConverged (c.prepare owner) owner = true := by
  have fresh' := fresh.prepare owner
  refine isConverged_iff.mpr ⟨?_, ?_, ?_⟩
  · apply isOwnedBy_of_mem controls
    rw [owners_created, owners_prepare]
    exact List.mem_singleton_self owner
  · exact recordedHash?_created version _
  · exact (embodies_created version fresh').contains (extends_created version fresh')

/-- What a replacement stores is converged, whatever the live object was. -/
theorem isConverged_replaced :
    (replaced version live (c.prepare owner) owner).isConverged (c.prepare owner) owner = true := by
  have fresh' := fresh.prepare owner
  refine isConverged_iff.mpr ⟨?_, ?_, ?_⟩
  · apply isOwnedBy_of_mem controls
    rw [owners_replaced]
    exact List.mem_append_right _ (List.mem_singleton_self owner)
  · rw [recordedHash?, metadata_replaced, metadata_replacement, recordedHash?_prepare]
    simp [Table.get?_union, metadata_prepare]
  · exact (embodies_replaced version live owner fresh').contains
      (extends_replaced version live owner fresh')

end Converged

end Child

end JupyterWorkloads
