import JupyterWorkloads.Proofs.Converge.Reliable

/-! Convergence reaches a fixpoint. Whatever was stored before, one pass over a reliable store leaves
every generated child as it was generated, and a second pass reads each child once and writes nothing. -/
namespace JupyterWorkloads

/-- The stored object is the child as it was generated for its owner, with what others attached. -/
structure Child.Restored (owner : OwnerReference) (c stored : Child) : Prop where
  generated : Drift.contains stored.toJson c.toJson = true
  prepared : Drift.contains stored.toJson (c.prepare owner).unownedJson = true
  controlled : ∃ o ∈ stored.owners, o.uid = owner.uid ∧ o.controller = some true
  stamped : stored.recordedHash? = some (c.fingerprint owner)

namespace Child

theorem contains_unannotated {live m : ObjectMeta} (texts : StringTable)
    (unannotated : m.annotations = none)
    (h : Drift.contains (encode live) (encode { m with annotations := some texts }) = true) :
    Drift.contains (encode live) (encode m) = true := by
  refine Drift.contains_fewer ?_ h
  intro row hr
  simp only [unannotated] at hr
  exact List.mem_cons_of_mem _ hr

/-- Owners aside, preparing a child only adds its fingerprint. -/
theorem unownedJson_prepare {c : Child} (owner : OwnerReference)
    (unowned : c.metadata.ownerReferences = none) :
    (c.prepare owner).unownedJson = c.toJson.set "metadata" (encode { c.metadata with
      annotations := some
        ((c.metadata.annotations.getD ∅).insert desiredHashAnnotation (c.fingerprint owner)) }) := by
  obtain ⟨members, order, hm, json, json'⟩ := written c
  have known : ∃ m ∈ members, m.name = "metadata" := ⟨_, hm, rfl⟩
  rw [unownedJson_eq, prepare_eq, mapMetadata, mapMetadata, withMetadata_withMetadata, json', json,
    Json.set_record order known, metadata_withMetadata]
  simp only [← unowned]

/-- What contains the prepared child, owners aside, contains the child as it was generated. -/
theorem contains_generated {c live : Child} {owner : OwnerReference}
    (unannotated : c.metadata.annotations = none) (unowned : c.metadata.ownerReferences = none)
    (h : Drift.contains live.toJson (c.prepare owner).unownedJson = true) :
    Drift.contains live.toJson c.toJson = true := by
  rw [unownedJson_prepare owner unowned] at h
  generalize (c.metadata.annotations.getD ∅).insert desiredHashAnnotation _ = texts at h
  obtain ⟨members, order, hm, json, _⟩ := written c
  obtain ⟨theirs, order', hm', json', _⟩ := written live
  have rows := Member.rows_increasing order
  have more := rows.insert "metadata" (encode { c.metadata with annotations := some texts })
  have own : Rows.get? "metadata" (Member.rows members) = some (encode c.metadata) :=
    Member.get?_rows_of_mem order hm
  have found : Rows.get? "metadata" (Member.rows theirs) = some (encode live.metadata) :=
    Member.get?_rows_of_mem order' hm'
  rw [json, json'] at h ⊢
  rw [Json.record, Json.record, Json.set, Drift.contains, Drift.containsFields_iff] at h
  rw [Json.record, Json.record, Drift.contains, Drift.containsFields_iff]
  rintro ⟨name, v⟩ hr
  have value := Rows.get?_of_mem rows hr
  by_cases here : name = "metadata"
  · subst here
    cases own.symm.trans value
    have answer := h ("metadata", _) (Rows.mem_of_get? (Rows.get?_insert "metadata" _ _ _))
    simp only [Drift.Answers, found] at answer ⊢
    exact contains_unannotated texts unannotated answer
  · apply h
    rw [Rows.mem_iff_get? more, Rows.get?_insert, if_neg (Ne.symm here)]
    exact value

end Child

namespace Converge

open Store Memory

variable {owner : OwnerReference} {m : Memory}

/-- Whatever an object became in a pass, the next pass finds it converged. -/
theorem Became.isConverged {c stored : Child} {slot : Option Child} {version : Nat}
    (h : Became owner slot (c.prepare owner) version stored) (fresh : c.Fresh)
    (controls : owner.controller = some true) :
    stored.isConverged (c.prepare owner) owner = true := by
  cases h with
  | kept _ converged => exact converged
  | created _ => exact Child.isConverged_created version fresh controls
  | recreated _ _ _ => exact Child.isConverged_created version fresh controls
  | replaced _ _ _ => exact Child.isConverged_replaced version _ fresh controls

theorem Succeeds.rests {p : Parent} {set : ChildSet} (h : Succeeds owner set m)
    (generated : set.GeneratedFor p) (controls : owner.controller = some true) {c : Child}
    (hc : c ∈ set.toList) : ∃ live, (m.converge owner set).state.get c.key = some live ∧
      live.isConverged (c.prepare owner) owner = true := by
  obtain ⟨version, stored, present, became⟩ := h.became c hc
  refine ⟨stored, ?_, became.isConverged (generated.fresh hc) controls⟩
  rw [Memory.get, h.hidden, if_neg List.not_mem_nil, present]

theorem Became.owned {desired stored : Child} {slot : Option Child} {version : Nat}
    (h : Became owner slot desired version stored) (mine : owner ∈ desired.owners) :
    slot = some stored ∨ owner ∈ stored.owners := by
  cases h with
  | kept present _ => exact .inl present
  | created _ => exact .inr (by rwa [Child.owners_created])
  | recreated _ _ _ => exact .inr (by rwa [Child.owners_created])
  | replaced _ _ _ =>
    right
    rw [Child.owners_replaced]
    exact List.mem_append_right _ (List.mem_singleton_self owner)

section Rest

variable {c : Child} {live : Child} (present : m.get c.key = some live)
  (converged : live.isConverged (c.prepare owner) owner = true) (report : Report)

include present converged

theorem child_rests : (child owner report c).run.requests handle m = [Call.get c.key] ∧
    ((child owner report c).run.run handle m).state = m ∧
      ((child owner report c).run.run handle m).value =
        .ok ({ report with unchanged := report.unchanged + 1 }.observe (some live)) := by
  have answer : m.handle (.get (c.prepare owner).key) = (.ok (some live), m) := by
    rw [handle, Child.key_prepare, present]
  rw [child_run, Program.requests_ask (I := Calls) answer, Program.run_ask (I := Calls) answer]
  simp only [if_pos converged, Child.key_prepare]
  exact ⟨rfl, rfl, rfl⟩

end Rest

theorem children_rest {cs : List Child} (report : Report)
    (converged : ∀ c ∈ cs, ∃ live, m.get c.key = some live ∧
      live.isConverged (c.prepare owner) owner = true) :
    (children owner report cs).run.requests handle m = cs.map (fun c => Call.get c.key) ∧
      ((children owner report cs).run.run handle m).state = m ∧
        ∃ final, ((children owner report cs).run.run handle m).value = .ok final ∧
          final.created = report.created ∧ final.updated = report.updated ∧
            final.raced = report.raced ∧ final.unchanged = report.unchanged + cs.length := by
  induction cs generalizing report with
  | nil => exact ⟨rfl, rfl, report, rfl, rfl, rfl, rfl, rfl⟩
  | cons c rest ih =>
    obtain ⟨live, present, here⟩ := converged c List.mem_cons_self
    obtain ⟨requests, state, value⟩ := child_rests present here report
    have tail := ih ({ report with unchanged := report.unchanged + 1 }.observe (some live))
      fun d hd => converged d (.tail _ hd)
    obtain ⟨created, updated, unchanged, raced⟩ :=
      observe_counters { report with unchanged := report.unchanged + 1 } (some live)
    rw [created, updated, unchanged, raced] at tail
    dsimp only at tail
    rw [children_run_cons, Program.requests_bind (I := Calls) handle,
      Program.state_bind (I := Calls) handle, Program.value_bind (I := Calls) handle, requests, state,
      value]
    refine ⟨congrArg (Call.get c.key :: ·) tail.1, tail.2.1, ?_⟩
    obtain ⟨final, given, counts⟩ := tail.2.2
    refine ⟨final, given, counts.1, counts.2.1, counts.2.2.1, ?_⟩
    rw [counts.2.2.2, List.length_cons]
    omega

end Converge

open Store Memory Converge

/-- Whatever was stored before, a pass over a reliable store succeeds and restores every generated
child. The owner is attached unless the object was left as it is, when it already had a controller of the
same uid. The next pass reads each child, writes nothing and leaves the store as it is. -/
theorem converge_reaches_fixpoint {p : Parent} {d : Defaults} {resolver : Resolver} {set : ChildSet}
    {owner : OwnerReference} {m : Memory} (hidden : m.hidden = []) (works : m.failing = [])
    (owned : p.owner? = some owner)
    (given : (Generating.resolve resolver (p.generate d)).value = .ok set) :
    (∃ report, (m.converge owner set).value = .ok report) ∧
    (∀ c ∈ set.toList, ∃ stored, (m.converge owner set).state.object? c.key = some stored ∧
      c.Restored owner stored ∧ (m.object? c.key = some stored ∨ owner ∈ stored.owners)) ∧
    (converge owner set).run.requests handle (m.converge owner set).state =
      set.toList.map (fun c => Call.get c.key) ∧
    ((m.converge owner set).state.converge owner set).state = (m.converge owner set).state ∧
    ∃ report, ((m.converge owner set).state.converge owner set).value = .ok report ∧
      report.created = 0 ∧ report.updated = 0 ∧ report.raced = 0 ∧
        report.unchanged = set.toList.length := by
  have generated := Parent.generatedFor given
  have controls := Parent.controller_of_owner? owned
  have succeeds := converge_succeeds generated hidden works owner
  have reached : ∀ c ∈ set.toList, ∃ stored, (m.converge owner set).state.object? c.key = some stored ∧
      stored.isConverged (c.prepare owner) owner = true ∧
        (m.object? c.key = some stored ∨ owner ∈ stored.owners) := by
    intro c hc
    obtain ⟨version, stored, present, became⟩ := succeeds.became c hc
    refine ⟨stored, present, became.isConverged (generated.fresh hc) controls, became.owned ?_⟩
    rw [Child.owners_prepare]
    exact List.mem_singleton_self owner
  have rests : ∀ c ∈ set.toList, ∃ live, (m.converge owner set).state.get c.key = some live ∧
      live.isConverged (c.prepare owner) owner = true := by
    intro c hc
    obtain ⟨stored, present, converged, _⟩ := reached c hc
    refine ⟨stored, ?_, converged⟩
    rw [Memory.get, succeeds.hidden, if_neg List.not_mem_nil, present]
  obtain ⟨requests, state, report, value, created, updated, raced, unchanged⟩ :=
    children_rest {} rests
  refine ⟨succeeds.value, ?_, requests, state, report, value, created, updated, raced, ?_⟩
  · intro c hc
    obtain ⟨stored, present, converged, attached⟩ := reached c hc
    obtain ⟨controlled, stamped, prepared⟩ := Child.isConverged_iff.mp converged
    have identity := generated.metadata c hc
    have plain := Child.contains_generated (by rw [identity]; rfl) (by rw [identity]; rfl) prepared
    rw [Child.recordedHash?_prepare] at stamped
    exact ⟨stored, present, ⟨plain, prepared, Child.isOwnedBy_iff.mp controlled, stamped⟩, attached⟩
  · rw [unchanged]
    exact Nat.zero_add _

/-- An account that something else keeps under the name of a gateway. -/
def Child.stray : Child := .serviceAccount {
  automountServiceAccountToken := some false
  metadata := { (default : ObjectMeta) with
    name := some "lab"
    ns := some "team"
    finalizers := some ["backup"] } }

theorem stray_account_is_restored :
    let m := (Memory.empty.insert Child.stray).2
    let g := Gateway.plain "team" "lab" "1"
    let owner : OwnerReference := {
      apiVersion := apiVersion
      blockOwnerDeletion := none
      controller := some true
      kind := "JupyterGateway"
      name := "lab"
      uid := "1" }
    let set := g.children default
    (m.hidden = [] ∧ m.failing = [] ∧ (Parent.gateway g).owner? = some owner ∧
      (Generating.resolve (fun l => .error (.notFound l)) ((Parent.gateway g).generate default)).value =
        .ok set) ∧
    (∃ stored, (m.converge owner set).state.object? ⟨.serviceAccount, "team", "lab"⟩ = some stored ∧
      (Child.serviceAccount g.serviceAccount).Restored owner stored) ∧
    ((m.converge owner set).state.converge owner set).state = (m.converge owner set).state := by
  intro m g owner set
  have given : (Generating.resolve (fun l => .error (.notFound l))
      ((Parent.gateway g).generate default)).value = .ok set :=
    Gateway.resolve_generate rfl default _
  obtain ⟨_, restored, _, state, _⟩ :=
    converge_reaches_fixpoint (m := m) (p := .gateway g) rfl rfl rfl given
  obtain ⟨stored, present, holds, _⟩ := restored _ List.mem_cons_self
  exact ⟨⟨rfl, rfl, rfl, given⟩, ⟨stored, present, holds⟩, state⟩

end JupyterWorkloads
