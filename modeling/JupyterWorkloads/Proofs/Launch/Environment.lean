import JupyterWorkloads.Launch.Pod
import JupyterWorkloads.Proofs.Parent.Wiring
import JupyterWorkloads.Proofs.Pod.Completion

/-! What a launched kernel finds in its pod. The variables of the launch stand behind those of the template,
so each of them takes effect whatever the template lists, and every other name keeps its meaning. The pod is
named and labelled for the launch; all else is as the kernel template has it. -/
namespace JupyterWorkloads

namespace EnvVar

theorem effective?_append (name : String) (env later : List EnvVar) :
    effective? name (env ++ later) = (effective? name later).or (effective? name env) := by
  rw [effective?, named, List.filter_append, List.getLast?_append]
  rfl

end EnvVar

namespace LaunchParameters

open EnvVar

def value? (p : LaunchParameters) : String → Option String
  | "EG_PORT_RANGE" => some p.portRange
  | "EG_RESPONSE_ADDRESS" => some p.responseAddress
  | "EG_PUBLIC_KEY" => some p.publicKey
  | "KERNEL_ID" => some p.kernelId
  | "KERNEL_LANGUAGE" => some p.language
  | "KERNEL_NAME" => some p.kernelName
  | "KERNEL_NAMESPACE" => some p.podNamespace
  | "KERNEL_SPARK_CONTEXT_INIT_MODE" => some p.sparkContextInitMode
  | "KERNEL_USERNAME" => some p.username
  | _ => none

theorem value?_of_mem {p : LaunchParameters} {var : EnvVar} (listed : var ∈ p.env) :
    (p.value? var.name).map (EnvVar.literal var.name) = some var := by
  simp only [env, List.mem_cons, List.not_mem_nil, or_false] at listed
  rcases listed with rfl | rfl | rfl | rfl | rfl | rfl | rfl | rfl | rfl <;> rfl

theorem value?_eq_none {p : LaunchParameters} {name : String} (absent : ∀ var ∈ p.env, var.name ≠ name) :
    p.value? name = none := by
  simp only [env, List.forall_mem_cons, EnvVar.literal] at absent
  unfold value?
  split
  all_goals simp_all

theorem effective?_env (p : LaunchParameters) (name : String) :
    effective? name p.env = (p.value? name).map (EnvVar.literal name) := by
  by_cases listed : ∃ var ∈ p.env, var.name = name
  · obtain ⟨var, listed, rfl⟩ := listed
    have distinct : (p.env.map EnvVar.name).Nodup := by simp +decide [env, EnvVar.literal]
    rw [effective?, named_of_nodup distinct listed, value?_of_mem listed]
    rfl
  · have absent : ∀ var ∈ p.env, var.name ≠ name := fun var hv same => listed ⟨var, hv, same⟩
    have none : named name p.env = [] := List.filter_eq_nil_iff.mpr (by simpa using absent)
    rw [effective?, none, value?_eq_none absent]
    rfl

/-- The pod is made from the template for the launch: `first` is the first container of the template, and
`told` is the environment that it has in the pod. -/
structure Launches (p : LaunchParameters) (t : PodTemplate) (first : Container) (told : List EnvVar)
    (pod : Pod) : Prop where
  spec : ∃ spec rest image, t.spec = some spec ∧ spec.containers = first :: rest ∧
    pod.spec = some { spec with
      containers := { first with image := image, env := some told } :: rest } ∧
    (∀ given, p.image = some given → image = some given) ∧ (p.image = none → image = first.image)
  launched : ∀ name value, p.value? name = some value →
    effective? name told = some { name := name, value := some value, valueFrom := none }
  kept : ∀ name, p.value? name = none → effective? name told = effective? name (first.env.getD [])
  metadata : ∃ labels, pod.metadata = { t.metadata.getD default with
    name := some p.podName, ns := some p.podNamespace, labels := some labels }
  identity : (pod.metadata.labels.bind fun labels => labels.get? "kernel_id") =
    (effective? "KERNEL_ID" told).bind EnvVar.value
  label : ∀ key ≠ "kernel_id", (pod.metadata.labels.bind fun labels => labels.get? key) = t.label? key

end LaunchParameters

namespace KernelTemplate

variable {t : KernelTemplate} {p : LaunchParameters} {pod : Pod}

theorem launchPod_eq_ok_iff : t.launchPod p = .ok pod ↔ ∃ template spec first rest,
    t.spec.template = some template ∧ template.spec = some spec ∧ spec.containers = first :: rest ∧
    pod = {
      metadata := launchMetadata p (template.metadata.getD default)
      spec := some { spec with containers := launchContainer p first :: rest } } := by
  unfold launchPod
  cases t.spec.template with
  | none => simp
  | some template =>
    cases own : template.spec with
    | none => simp [own]
    | some spec =>
      cases listed : spec.containers with
      | nil => simp [own, listed]
      | cons first rest =>
        simp only [own, Option.bind_some, Option.map_some, listed, Except.ok.injEq]
        constructor
        · intro made
          exact ⟨_, _, _, _, rfl, own, listed, made.symm⟩
        · rintro ⟨_, _, _, _, ⟨⟩, given, others, made⟩
          cases own.symm.trans given
          cases listed.symm.trans others
          exact made.symm

theorem launches_of_launchPod (given : t.launchPod p = .ok pod) : ∃ template first told,
    t.spec.template = some template ∧ p.Launches template first told pod := by
  obtain ⟨template, spec, first, rest, own, written, listed, rfl⟩ := launchPod_eq_ok_iff.mp given
  have told (name : String) : EnvVar.effective? name (first.env.getD [] ++ p.env) =
      ((p.value? name).map (EnvVar.literal name)).or (EnvVar.effective? name (first.env.getD [])) := by
    rw [EnvVar.effective?_append, LaunchParameters.effective?_env]
  refine ⟨template, first, first.env.getD [] ++ p.env, own, ?_⟩
  constructor
  · refine ⟨spec, rest, _, written, listed, rfl, ?_, ?_⟩
    · intro image replaced
      rw [replaced]
      rfl
    · intro unset
      rw [unset]
      rfl
  · intro name value set
    rw [told, set]
    rfl
  · intro name unset
    rw [told, unset]
    rfl
  · exact ⟨_, rfl⟩
  · rw [told]
    exact (Table.get?_insert ..).trans (if_pos rfl)
  · intro key other
    have kept := (Table.get?_insert ((template.metadata.getD default).labels.getD ∅) Label.kernelId key
      p.kernelId).trans (if_neg (Ne.symm other))
    exact kept.trans (template.get?_labels key)

theorem launchPod_ok_iff : (∃ pod, t.launchPod p = .ok pod) ↔
    ∃ template, t.spec.template = some template ∧ template.HasContainer := by
  simp only [launchPod_eq_ok_iff]
  constructor
  · rintro ⟨_, template, spec, first, rest, own, written, listed, _⟩
    exact ⟨template, own, spec, written, by simp [listed]⟩
  · rintro ⟨template, own, spec, written, listed⟩
    obtain ⟨first, rest, listed⟩ := List.exists_cons_of_ne_nil listed
    exact ⟨_, template, spec, first, rest, own, written, listed, rfl⟩

/-- A launch gets its pod exactly when the kernel template has a pod template with a container. Each variable
of the launch then takes effect in the first container, and every other name keeps its meaning; the pod is
named and labelled for the launch and is in all else the one of the template. -/
theorem launched_kernel_is_told (t : KernelTemplate) (p : LaunchParameters) :
    ((∃ pod, t.launchPod p = .ok pod) ↔
      ∃ template, t.spec.template = some template ∧ template.HasContainer) ∧
    ∀ pod, t.launchPod p = .ok pod → ∃ template first told,
      t.spec.template = some template ∧ p.Launches template first told pod :=
  ⟨launchPod_ok_iff, fun _ => launches_of_launchPod⟩

def colliding : KernelTemplate := { (default : KernelTemplate) with
  spec := { template := some {
    metadata := some { (default : ObjectMeta) with
      labels := some (Table.ofList [("kernel_id", "old"), ("team", "ml")]) }
    spec := some { (default : PodSpec) with containers := [{ (default : Container) with
      name := "kernel"
      env := some [.literal "KERNEL_ID" "old", .literal "MODE" "a", .literal "MODE" "b"] }] } } } }

theorem launch_decides_collision :
    let p := { (default : LaunchParameters) with kernelId := "new" }
    ∃ pod template first told, colliding.launchPod p = .ok pod ∧ p.Launches template first told pod ∧
      EnvVar.effective? "KERNEL_ID" told = some (.literal "KERNEL_ID" "new") ∧
      EnvVar.effective? "MODE" told = some (.literal "MODE" "b") ∧
      (pod.metadata.labels.bind fun labels => labels.get? "team") = some "ml" := by
  intro p
  obtain ⟨gets, tells⟩ := launched_kernel_is_told colliding p
  obtain ⟨pod, given⟩ := gets.mpr ⟨_, rfl, _, rfl, nofun⟩
  obtain ⟨template, first, told, own, launches⟩ := tells pod given
  cases own
  obtain ⟨_, _, _, written, listed, _⟩ := launches.spec
  cases written
  cases listed
  refine ⟨pod, _, _, told, given, launches, launches.launched "KERNEL_ID" "new" rfl, ?_, ?_⟩
  · rw [launches.kept "MODE" rfl]
    rfl
  · rw [launches.label "team" (by decide)]
    decide

end KernelTemplate

end JupyterWorkloads
