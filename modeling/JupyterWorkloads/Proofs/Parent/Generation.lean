import JupyterWorkloads.Parent
import JupyterWorkloads.Proofs.Program.Surroundings

/-! What every generator gives. The children of a parent are of the kinds that belong to its kind, one
of each; they carry its name, its namespace and its labels, and set nothing that the server decides. -/
namespace JupyterWorkloads

namespace Parent

/-- The namespace of the parent; one that is not set counts as empty. -/
def ns (p : Parent) : String := p.metadata.ns.getD ""

theorem owner?_eq_some {p : Parent} {owner : OwnerReference} (h : p.owner? = some owner) :
    owner = {
      apiVersion := JupyterWorkloads.apiVersion
      blockOwnerDeletion := none
      controller := some true
      kind := p.kind.name
      name := p.name
      uid := owner.uid } ∧ p.metadata.uid = some owner.uid := by
  unfold owner? at h
  cases name : p.metadata.name with
  | none => simp [name] at h
  | some text =>
    cases uid : p.metadata.uid with
    | none => simp [name, uid] at h
    | some _ =>
      have named : p.name = text := by rw [Parent.name, ObjectMeta.anyName, name]; rfl
      simp only [name, uid, bind, Option.bind, pure, Option.some.injEq] at h
      subst h
      rw [named]
      exact ⟨rfl, rfl⟩

theorem controller_of_owner? {p : Parent} {owner : OwnerReference} (h : p.owner? = some owner) :
    owner.controller = some true := by
  rw [(owner?_eq_some h).1]

theorem owner?_congr {p q : Parent} {owner other : OwnerReference} (h : p.owner? = some owner)
    (h' : q.owner? = some other) (kind : q.kind = p.kind) (name : q.name = p.name)
    (uid : q.metadata.uid = p.metadata.uid) : other = owner := by
  obtain ⟨shape, given⟩ := owner?_eq_some h
  obtain ⟨shape', given'⟩ := owner?_eq_some h'
  rw [uid, given, Option.some.injEq] at given'
  rw [shape, shape', kind, name, given']

end Parent

def ParentKind.childKinds : ParentKind → List ChildKind
  | gateway => [.serviceAccount, .roleBinding, .deployment, .service]
  | kernelSpec => [.configMap]
  | kernel => [.deployment]
  | notebook => [.deployment]

/-- A child sets nothing that the server decides: its version, its uid, the generation and the status of
a deployment, the address of a service. -/
structure Child.Fresh (c : Child) : Prop where
  generation : c.metadata.generation = none
  version : c.metadata.resourceVersion = none
  uid : c.metadata.uid = none
  status : ∀ o, c = .deployment o → o.status = none
  address : ∀ o, c = .service o →
    ∃ spec, o.spec = some spec ∧ spec.clusterIP = none ∧ spec.clusterIPs = none

/-- The children that the generator of a parent may give. -/
structure ChildSet.GeneratedFor (p : Parent) (set : ChildSet) : Prop where
  kinds : set.toList.map Child.kind = p.kind.childKinds
  metadata : ∀ c ∈ set.toList, c.metadata = Labels.childMetadata p.kind.label p.ns p.name
  status : ∀ o, .deployment o ∈ set.toList → o.status = none
  address : ∀ o, .service o ∈ set.toList →
    ∃ spec, o.spec = some spec ∧ spec.clusterIP = none ∧ spec.clusterIPs = none

namespace Generating

variable {α β : Type}

/-- Every result the generator may give, whatever is looked up. -/
def Gives (post : α → Prop) (g : Generating α) : Prop :=
  g.run.Promises (fun _ => True) fun r => ∀ a, r = .ok a → post a

theorem gives_pure {post : α → Prop} {a : α} (h : post a) : Gives post (pure a) :=
  fun _ hb => Except.ok.inj hb ▸ h

theorem gives_throw {post : α → Prop} (e : ReconcileError) : Gives post (throw e) := nofun

theorem gives_ofExcept {post : α → Prop} {r : Except InvalidSpec α} (h : ∀ a, r = .ok a → post a) :
    Gives post (ofExcept r) := by
  cases r with
  | error reason => exact gives_throw _
  | ok a => exact gives_pure (h a rfl)

theorem gives_bind {post : β → Prop} {g : Generating α} {f : α → Generating β}
    (h : ∀ a, Gives post (f a)) : Gives post (g >>= f) := by
  refine Program.Promises.bind g.run.promises_anything fun r _ => ?_
  cases r with
  | error e => exact nofun
  | ok a => exact h a

theorem Gives.resolve {post : α → Prop} {g : Generating α} (h : Gives post g) {resolver : Resolver}
    {a : α} (given : (resolve resolver g).value = .ok a) : post a :=
  h.value a given

end Generating

open Generating

theorem Gateway.toList_children (g : Gateway) (d : Defaults) : (g.children d).toList = [
    .serviceAccount g.serviceAccount,
    .roleBinding (g.roleBinding d),
    .deployment (.ofTemplate g.childMetadata g.selector (g.podTemplate d)),
    .service (g.service d)] := rfl

theorem KernelSpec.toList_children (k : KernelSpec) (d : Defaults) :
    (k.children d).toList = [.configMap (k.configMap d)] := rfl

theorem Gateway.generatedFor (g : Gateway) (d : Defaults) :
    ChildSet.GeneratedFor (.gateway g) (g.children d) := by
  have members := g.toList_children d
  refine ⟨rfl, ?_, ?_, ?_⟩
  · intro c hc
    simp only [members, List.mem_cons, List.not_mem_nil, or_false] at hc
    rcases hc with rfl | rfl | rfl | rfl <;> rfl
  · intro o ho
    simp only [members, List.mem_cons, List.not_mem_nil, or_false, reduceCtorEq, false_or,
      Child.deployment.injEq] at ho
    rw [ho]
    rfl
  · intro o ho
    simp only [members, List.mem_cons, List.not_mem_nil, or_false, reduceCtorEq, false_or,
      Child.service.injEq] at ho
    rw [ho]
    exact ⟨_, rfl, rfl, rfl⟩

theorem KernelSpec.generatedFor (k : KernelSpec) (d : Defaults) :
    ChildSet.GeneratedFor (.kernelSpec k) (k.children d) := by
  have members := k.toList_children d
  refine ⟨rfl, ?_, ?_, ?_⟩
  · intro c hc
    rw [members, List.mem_singleton] at hc
    rw [hc]
    rfl
  all_goals
    intro o ho
    rw [members, List.mem_singleton] at ho
    cases ho

theorem ChildSet.generatedFor_deployment {p : Parent} (kinds : p.kind.childKinds = [.deployment])
    (selector : StringTable) (t : PodTemplate) :
    GeneratedFor p (.ofList [.deployment
      (.ofTemplate (Labels.childMetadata p.kind.label p.ns p.name) selector t)]) := by
  refine ⟨kinds.symm, ?_, ?_, ?_⟩
  · intro c hc
    rw [List.mem_singleton.mp hc]
    rfl
  · intro o ho
    cases List.mem_singleton.mp ho
    rfl
  · intro o ho
    cases List.mem_singleton.mp ho

theorem Kernel.children_cases {k : Kernel} {t : PodTemplate} {set : ChildSet}
    (given : k.children t = .ok set) : ∃ id identified completed,
      k.identify t = .ok (id, identified) ∧
      identified.complete ((Labels.selector Label.kernel k.ns k.name).insert Label.kernelId id) =
        .ok completed ∧
      set = .ofList [.deployment (.ofTemplate (Labels.childMetadata Label.kernel k.ns k.name)
        (Labels.selector Label.kernel k.ns k.name) completed)] := by
  unfold children at given
  cases found : k.identify t with
  | error e =>
    rw [found] at given
    cases given
  | ok pair =>
    obtain ⟨id, identified⟩ := pair
    cases complete : identified.complete
        ((Labels.selector Label.kernel k.ns k.name).insert Label.kernelId id)
    all_goals
      simp only [found, bind, Except.bind, complete] at given
      cases given
    exact ⟨id, identified, _, rfl, complete, rfl⟩

theorem Kernel.generatedFor (k : Kernel) {t : PodTemplate} {set : ChildSet}
    (given : k.children t = .ok set) : set.GeneratedFor (.kernel k) := by
  obtain ⟨_, _, completed, _, _, rfl⟩ := children_cases given
  exact ChildSet.generatedFor_deployment (p := .kernel k) rfl _ completed

theorem Kernel.gives (k : Kernel) : Gives (ChildSet.GeneratedFor (.kernel k)) k.generate := by
  unfold generate
  cases k.spec.template with
  | some t => exact gives_ofExcept fun set given => k.generatedFor given
  | none =>
    cases k.spec.templateRef with
    | none => exact gives_throw _
    | some ref =>
      apply gives_bind
      intro found
      cases found.spec.template with
      | none => exact gives_throw _
      | some t => exact gives_ofExcept fun set given => k.generatedFor given

def Notebook.authArgs (n : Notebook) : List String :=
  match n.spec.auth with
  | some auth => auth.args
  | none => []

/-- The server with the flags of the notebook behind those of its template. -/
def Notebook.withFlags (n : Notebook) (gatewayArgs : List String) (c : Container) : Container :=
  { c with args := some (c.args.getD [] ++ gatewayArgs ++ n.authArgs) }

theorem Notebook.children_cases {n : Notebook} {d : Defaults} {set : ChildSet}
    (given : n.children d = .ok set) : ∃ completed gatewayArgs,
      (n.spec.template.getD (defaultTemplate d)).complete
        (Labels.selector Label.notebook n.ns n.name) = .ok completed ∧
      n.gatewayArgs d = .ok gatewayArgs ∧
      set = .ofList [.deployment (.ofTemplate (Labels.childMetadata Label.notebook n.ns n.name)
        (Labels.selector Label.notebook n.ns n.name)
        (completed.mapFirstContainer (n.withFlags gatewayArgs)))] := by
  unfold children at given
  split at given
  · cases given
  · cases complete : (n.spec.template.getD (defaultTemplate d)).complete
        (Labels.selector Label.notebook n.ns n.name) with
    | error e =>
      simp only [complete, bind, Except.bind] at given
      cases given
    | ok t =>
      cases args : n.gatewayArgs d
      all_goals
        simp only [complete, args, bind, Except.bind] at given
        cases given
      exact ⟨t, _, rfl, rfl, rfl⟩

theorem Notebook.generatedFor (n : Notebook) {d : Defaults} {set : ChildSet}
    (given : n.children d = .ok set) : set.GeneratedFor (.notebook n) := by
  obtain ⟨_, _, _, _, rfl⟩ := children_cases given
  exact ChildSet.generatedFor_deployment (p := .notebook n) rfl _ _

/-- Every generator gives children for its parent, whatever is looked up. -/
theorem Parent.generatedFor {p : Parent} {d : Defaults} {resolver : Resolver} {set : ChildSet}
    (given : (resolve resolver (p.generate d)).value = .ok set) : set.GeneratedFor p := by
  suffices gives : Gives (ChildSet.GeneratedFor p) (p.generate d) from gives.resolve given
  cases p with
  | gateway g => exact gives_bind fun _ => gives_pure (g.generatedFor d)
  | kernelSpec k => exact gives_pure (k.generatedFor d)
  | kernel k => exact k.gives
  | notebook n => exact gives_ofExcept fun set given => n.generatedFor given

def Gateway.plain (ns name uid : String) : Gateway :=
  { (default : Gateway) with
    metadata := { (default : ObjectMeta) with name := some name, ns := some ns, uid := some uid } }

def KernelSpec.plain (ns name uid : String) (image : Option String) : KernelSpec :=
  { (default : KernelSpec) with
    metadata := { (default : ObjectMeta) with name := some name, ns := some ns, uid := some uid }
    spec := { (default : KernelSpec.Spec) with image := image } }

def Notebook.plain (ns name uid gateway : String) : Notebook :=
  { (default : Notebook) with
    metadata := { (default : ObjectMeta) with name := some name, ns := some ns, uid := some uid }
    spec := { (default : Notebook.Spec) with
      gateway := some { (default : ObjectReference) with name := some gateway } } }

theorem Gateway.resolve_generate {g : Gateway} (unnamed : g.kernelNames = []) (d : Defaults)
    (resolver : Resolver) :
    (resolve resolver (g.generate d)).value = .ok (g.children d) := by
  unfold generate
  rw [unnamed]
  rfl

namespace ChildSet.GeneratedFor

variable {p : Parent} {set : ChildSet}

theorem fresh (h : set.GeneratedFor p) {c : Child} (hc : c ∈ set.toList) : c.Fresh where
  generation := by rw [h.metadata c hc]; rfl
  version := by rw [h.metadata c hc]; rfl
  uid := by rw [h.metadata c hc]; rfl
  status o ho := h.status o (ho ▸ hc)
  address o ho := h.address o (ho ▸ hc)

theorem key_eq (h : set.GeneratedFor p) {c : Child} (hc : c ∈ set.toList) :
    c.key = ⟨c.kind, p.ns, p.name⟩ := by
  unfold Child.key Child.ns Child.name
  rw [h.metadata c hc]
  rfl

/-- Two children of a set are never of one kind, so their keys differ. -/
theorem distinct (h : set.GeneratedFor p) : set.toList.Pairwise fun a b => a.key ≠ b.key := by
  have kinds : (set.toList.map Child.kind).Nodup := by
    rw [h.kinds]
    cases p.kind <;> decide
  rw [List.Nodup, List.pairwise_map] at kinds
  refine kinds.imp ?_
  intro a b other same
  exact other (congrArg ChildKey.kind same)

theorem keys_eq {p' : Parent} {set' : ChildSet} (h : set.GeneratedFor p)
    (h' : set'.GeneratedFor p') (kind : p'.kind = p.kind) (ns : p'.ns = p.ns)
    (name : p'.name = p.name) : set'.toList.map Child.key = set.toList.map Child.key := by
  have keys : ∀ {q : Parent} {s : ChildSet}, s.GeneratedFor q →
      s.toList.map Child.key = q.kind.childKinds.map fun kind => ⟨kind, q.ns, q.name⟩ := by
    intro q s hs
    rw [← hs.kinds, List.map_map]
    exact List.map_congr_left fun c hc => hs.key_eq hc
  rw [keys h, keys h', kind, ns, name]

end ChildSet.GeneratedFor

end JupyterWorkloads
