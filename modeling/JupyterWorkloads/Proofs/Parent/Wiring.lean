import JupyterWorkloads.Proofs.Parent.Allowlist
import JupyterWorkloads.Proofs.Parent.Isolation

/-! How the objects of a gateway fit together. Whatever one of them refers to is generated as well: the
account that runs the pod and has the role, the pods and the port that the service stands in front of, the
config maps that hold the kernel specs. Notebooks reach the gateway at the address of its service. -/
namespace JupyterWorkloads

open Generating

theorem EnvVar.named_of_nodup {env : List EnvVar} (distinct : (env.map EnvVar.name).Nodup)
    {var : EnvVar} (listed : var ∈ env) : named var.name env = [var] := by
  induction env with
  | nil => cases listed
  | cons first rest ih =>
    have parts := List.nodup_cons.mp distinct
    rcases List.mem_cons.mp listed with rfl | later
    · have others : named var.name rest = [] := by
        refine List.filter_eq_nil_iff.mpr fun other ho => ?_
        have apart : other.name ≠ var.name := fun same => parts.1 (same ▸ List.mem_map_of_mem ho)
        simpa using apart
      simp only [named] at others ⊢
      rw [List.filter_cons_of_pos (by simp), others]
    · have apart : first.name ≠ var.name := fun same => parts.1 (same ▸ List.mem_map_of_mem later)
      have tail := ih parts.2 later
      simp only [named] at tail ⊢
      rw [List.filter_cons_of_neg (by simpa using apart), tail]

namespace Gateway

/-- The volume holds the config map that is generated for the kernel spec of its name. -/
def Holds (g : Gateway) (d : Defaults) (r : Resolver) (v : Volume) : Prop :=
  ∃ map spec config, v.configMap = some map ∧
    r ⟨.kernelSpec, g.ns, v.name⟩ = .ok (.kernelSpec spec) ∧
    (spec.children d).toList = [.configMap config] ∧
    config.metadata.name = some map.name ∧ config.metadata.ns = some g.ns ∧
    config.data.bind (fun data => data.get? "kernel.json") = some (spec.documentText d)

/-- The children of a gateway, with the parts in which they refer to each other. -/
structure Parts where
  account : ServiceAccount
  binding : RoleBinding
  workload : Deployment
  service : Service
  subject : Subject
  selector : StringTable
  pod : PodSpec
  container : Container
  containerPort : ContainerPort
  serviceName : String
  serviceNs : String
  servicePort : ServicePort

namespace Parts

variable (x : Parts)

/-- The parts are those of the set: it has these children and no other, and where a list stands for a part
it has one item. -/
structure Of (set : ChildSet) : Prop where
  children : set.toList =
    [.serviceAccount x.account, .roleBinding x.binding, .deployment x.workload, .service x.service]
  subject : x.binding.subjects = some [x.subject]
  selector : x.workload.spec.bind (fun s => s.selector.matchLabels) = some x.selector
  pod : x.workload.spec.bind (fun s => s.template.spec) = some x.pod
  container : x.pod.containers = [x.container]
  containerPort : x.container.ports = some [x.containerPort]
  serviceName : x.service.metadata.name = some x.serviceName
  serviceNs : x.service.metadata.ns = some x.serviceNs
  servicePort : x.service.spec.bind ServiceSpec.ports = some [x.servicePort]

def env : List EnvVar := x.container.env.getD []

def volumes : List Volume := x.pod.volumes.getD []

def mounts : List VolumeMount := x.container.volumeMounts.getD []

def portText : String := Text.ofInt x.servicePort.port.toInt

/-- What the parts refer to is there. -/
structure Connected (g : Gateway) (d : Defaults) (r : Resolver) : Prop where
  account : x.pod.serviceAccountName = x.account.metadata.name
  subject : x.subject.kind = "ServiceAccount" ∧ some x.subject.name = x.account.metadata.name ∧
    x.subject.ns = x.account.metadata.ns
  selector : x.service.spec.bind ServiceSpec.selector = some x.selector
  port : x.servicePort.port = x.containerPort.containerPort
  portVariable : EnvVar.named "EG_PORT" x.env = [.literal "EG_PORT" x.portText]
  volumes : ∀ v ∈ x.volumes, g.Holds d r v
  mounts : ∀ mount ∈ x.mounts, ∃ v ∈ x.volumes, v.name = mount.name
  kernels : ∀ names, g.spec.kernels = some names →
    x.mounts.map VolumeMount.name = names ∧
      EnvVar.named "EG_KERNEL_WHITELIST" x.env = [.literal "EG_KERNEL_WHITELIST"
        (",".intercalate (names.map fun name => "'" ++ name ++ "'"))]

/-- The server of a notebook is told the address of the service, behind what its template says. -/
def ReachedFrom (n : Notebook) (d : Defaults) (set : ChildSet) : Prop :=
  ∃ o first server, set.toList = [.deployment o] ∧
    (n.spec.template.getD (Notebook.defaultTemplate d)).firstContainer? = some first ∧
    o.spec.bind (fun s => s.template.firstContainer?) = some server ∧
    server.args = some (first.args.getD [] ++
      [Notebook.gatewayFlag, "http://" ++ x.serviceName ++ "." ++ x.serviceNs ++ ":" ++ x.portText] ++
      n.authArgs)

end Parts

def parts (g : Gateway) (d : Defaults) : Parts where
  account := g.serviceAccount
  binding := g.roleBinding d
  workload := .ofTemplate g.childMetadata g.selector (g.podTemplate d)
  service := g.service d
  subject := { apiGroup := none, kind := "ServiceAccount", name := g.name, ns := some g.ns }
  selector := g.selector
  pod := PodSpec.complete
    { (default : PodSpec) with
      containers := [g.container d]
      serviceAccountName := some g.name
      volumes := some (g.kernelNames.map kernelVolume) }
  container := (g.container d).complete
  containerPort := {
    containerPort := d.gatewayPort
    hostPort := none
    name := some "gateway"
    protocol := some "TCP" }
  serviceName := g.name
  serviceNs := g.ns
  servicePort := {
    (default : ServicePort) with
    name := some "gateway"
    port := d.gatewayPort
    protocol := some "TCP" }

variable {g : Gateway} {d : Defaults} {r : Resolver} {set : ChildSet}

theorem parts_of (g : Gateway) (d : Defaults) : (g.parts d).Of (g.children d) where
  children := g.toList_children d
  subject := rfl
  selector := rfl
  pod := rfl
  container := rfl
  containerPort := rfl
  serviceName := rfl
  serviceNs := rfl
  servicePort := rfl

theorem named_env {var : EnvVar} (listed : var ∈ g.env d) : EnvVar.named var.name (g.env d) = [var] := by
  have distinct : ((g.env d).map EnvVar.name).Nodup := by
    unfold env
    cases g.spec.cullInterval <;> simp +decide [EnvVar.literal]
  exact EnvVar.named_of_nodup distinct listed

theorem resolveAll_eq_ok_iff {ns : String} {names : List String} :
    ((resolveAll ns names).run.run r.answer ()).value = .ok () ↔
      ∀ name ∈ names, ∃ spec, r ⟨.kernelSpec, ns, name⟩ = .ok (.kernelSpec spec) := by
  induction names with
  | nil => exact ⟨fun _ => nofun, fun _ => rfl⟩
  | cons first rest ih =>
    rw [resolveAll_run_cons, List.forall_mem_cons, ← ih]
    simp only [Program.run, Resolver.answer]
    cases r ⟨.kernelSpec, ns, first⟩ with
    | error e => simp [Program.run]
    | ok resolved => cases resolved <;> simp [Program.run]

/-- A gateway gets its children once every kernel spec that it names was found. -/
theorem generate_eq_ok (given : (resolve r (g.generate d)).value = .ok set) :
    set = g.children d ∧
      ∀ name ∈ g.kernelNames, ∃ spec, r ⟨.kernelSpec, g.ns, name⟩ = .ok (.kernelSpec spec) := by
  have gives : Gives (· = g.children d) (g.generate d) := gives_bind fun _ => gives_pure rfl
  obtain ⟨_, found, _⟩ := resolve_ofResolving given
  exact ⟨gives.resolve given, resolveAll_eq_ok_iff.mp found⟩

/-- The config maps that a gateway mounts are those that the kernel specs it names get. -/
theorem holds_kernelVolume {kernel : String} {spec : KernelSpec}
    (found : r ⟨.kernelSpec, g.ns, kernel⟩ = .ok (.kernelSpec spec)) (name : spec.name = kernel)
    (ns : spec.ns = g.ns) : g.Holds d r (kernelVolume kernel) := by
  refine ⟨{ name := kernel }, spec, spec.configMap d, rfl, found, spec.toList_children d, ?_, ?_, ?_⟩
  · rw [← name]
    rfl
  · show some spec.ns = some g.ns
    rw [ns]
  · exact Table.get?_insert ∅ KernelSpec.documentKey KernelSpec.documentKey (spec.documentText d)

theorem connected (g : Gateway) (d : Defaults)
    (found : ∀ name ∈ g.kernelNames, ∃ spec : KernelSpec,
      r ⟨.kernelSpec, g.ns, name⟩ = .ok (.kernelSpec spec) ∧ spec.name = name ∧ spec.ns = g.ns) :
    (g.parts d).Connected g d r where
  account := rfl
  subject := ⟨rfl, rfl, rfl⟩
  selector := rfl
  port := rfl
  portVariable := by
    have listed : EnvVar.literal "EG_PORT" (Text.ofInt d.gatewayPort.toInt) ∈ g.env d := by simp [env]
    exact named_env listed
  volumes v hv := by
    obtain ⟨kernel, listed, rfl⟩ := List.mem_map.mp hv
    obtain ⟨spec, looked, name, ns⟩ := found kernel listed
    exact holds_kernelVolume looked name ns
  mounts mount hm := by
    obtain ⟨kernel, listed, rfl⟩ := List.mem_map.mp hm
    exact ⟨kernelVolume kernel, List.mem_map_of_mem listed, rfl⟩
  kernels names offered := by
    constructor
    · show (g.kernelNames.map (kernelMount d)).map VolumeMount.name = names
      rw [kernelNames, offered, List.map_map]
      exact List.map_id names
    · have listed : EnvVar.literal "EG_KERNEL_WHITELIST" (allowlist names) ∈ g.env d := by
        simp [env, offered]
      rw [← allowlist_eq_intercalate]
      exact named_env listed

end Gateway

namespace Notebook

/-- The gateway reference of the notebook names the gateway; one without namespace means the notebook's. -/
def RefersTo (n : Notebook) (g : Gateway) : Prop :=
  ∃ ref, n.spec.gateway = some ref ∧ ref.name = some g.name ∧
    (ref.ns = some g.ns ∧ g.ns ≠ "" ∨ (ref.ns = none ∨ ref.ns = some "") ∧ n.ns = g.ns)

variable {n : Notebook} {g : Gateway} {d : Defaults} {set : ChildSet}

theorem gatewayArgs_eq_ok {args : List String} (refers : n.RefersTo g)
    (given : n.gatewayArgs d = .ok args) : args = [gatewayFlag, gatewayUrl d g.ns g.name] := by
  obtain ⟨ref, referred, name, ns⟩ := refers
  have space : (given? ref.ns).getD n.ns = g.ns := by
    rcases ns with ⟨own, set⟩ | ⟨none | empty, same⟩
    · simp [given?, own, Option.filter, set]
    · simp [given?, none, same]
    · simp [given?, empty, Option.filter, same]
  unfold gatewayArgs at given
  simp only [referred, name, space] at given
  by_cases blank : g.name = ""
  · simp [given?, Option.filter, blank] at given
  · simpa [given?, Option.filter, blank] using given.symm

theorem reachedFrom (given : n.children d = .ok set) (refers : n.RefersTo g) :
    (g.parts d).ReachedFrom n d set := by
  obtain ⟨completed, args, complete, pointed, rfl⟩ := children_cases given
  obtain ⟨first, own, whole, _⟩ := PodTemplate.complete_eq_ok complete
  refine ⟨_, first, n.withFlags args first.complete, rfl, own, ?_, ?_⟩
  · show (completed.mapFirstContainer (n.withFlags args)).firstContainer? = _
    rw [PodTemplate.firstContainer?_mapFirstContainer, whole]
    rfl
  · rw [gatewayArgs_eq_ok refers pointed]
    rfl

end Notebook

/-- Every reference between the objects that are generated for a gateway, for the kernel specs it names and
for the notebooks that refer to it leads to a generated object. -/
theorem Gateway.references_lead_to_children {g : Gateway} {d : Defaults} {r : Resolver} {set : ChildSet}
    (bears : ∀ name spec, r ⟨.kernelSpec, g.ns, name⟩ = .ok (.kernelSpec spec) →
      spec.name = name ∧ spec.ns = g.ns)
    (given : (resolve r (g.generate d)).value = .ok set) :
    ∃ x : Parts, x.Of set ∧ x.Connected g d r ∧
      ∀ n set', n.children d = .ok set' → n.RefersTo g → x.ReachedFrom n d set' := by
  obtain ⟨rfl, found⟩ := generate_eq_ok given
  refine ⟨g.parts d, g.parts_of d, g.connected d ?_, ?_⟩
  · intro name listed
    obtain ⟨spec, looked⟩ := found name listed
    exact ⟨spec, looked, bears name spec looked⟩
  · exact fun n set' made refers => Notebook.reachedFrom made refers

theorem Gateway.two_kernels_are_mounted :
    let g : Gateway := { Gateway.plain "team" "lab" "1" with
      spec := { (default : Gateway.Spec) with kernels := some ["python", "r"] } }
    let n := Notebook.plain "team" "nb" "2" "lab"
    let r : Resolver := fun l => .ok (.kernelSpec (KernelSpec.plain l.ns l.name "3" none))
    ∃ set set', (resolve r (g.generate default)).value = .ok set ∧ n.children default = .ok set' ∧
      n.RefersTo g ∧ ∃ x : Parts, x.Of set ∧ x.mounts.map VolumeMount.name = ["python", "r"] ∧
        x.ReachedFrom n default set' := by
  intro g n r
  have bears : ∀ name spec, r ⟨.kernelSpec, g.ns, name⟩ = .ok (.kernelSpec spec) →
      spec.name = name ∧ spec.ns = g.ns := by
    intro name spec looked
    cases looked
    exact ⟨rfl, rfl⟩
  have given : (resolve r (g.generate default)).value = .ok (g.children default) := rfl
  have made : n.children default = .ok _ := rfl
  have refers : n.RefersTo g := ⟨_, rfl, rfl, .inr ⟨.inl rfl, rfl⟩⟩
  obtain ⟨x, parts, connected, reached⟩ := references_lead_to_children bears given
  exact ⟨_, _, given, made, refers, x, parts, (connected.kernels _ rfl).1, reached n _ made refers⟩

end JupyterWorkloads
