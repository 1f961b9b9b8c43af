import JupyterWorkloads.Kernel.Children
import JupyterWorkloads.Proofs.Table.Content

/-! The identity of a kernel. Its pod is labelled with one id, and the first id variable of its first
container has that id as its value. The container itself runs with the last one, so the two agree when
the variable is not listed again with another value. -/
namespace JupyterWorkloads

namespace EnvVar

def named (name : String) (env : List EnvVar) : List EnvVar := env.filter fun var => var.name = name

/-- The entry of a name that takes effect: the last one. -/
def effective? (name : String) (env : List EnvVar) : Option EnvVar := (named name env).getLast?

theorem head?_named (name : String) (env : List EnvVar) :
    (named name env).head? = env.find? fun var => var.name = name :=
  List.head?_filter ..

end EnvVar

namespace PodTemplate

def firstEnv (t : PodTemplate) : List EnvVar := (t.firstContainer?.bind Container.env).getD []

def label? (t : PodTemplate) (name : String) : Option String :=
  (t.metadata.bind ObjectMeta.labels).bind fun labels => labels.get? name

theorem firstContainer?_mapFirstContainer (f : Container → Container) (t : PodTemplate) :
    (t.mapFirstContainer f).firstContainer? = t.firstContainer?.map f := by
  obtain ⟨metadata, _ | ⟨_ | ⟨first, rest⟩⟩⟩ := t <;> rfl

section Complete

variable {t completed : PodTemplate} {labels : StringTable}

theorem complete_eq_ok_iff : t.complete labels = .ok completed ↔ ∃ spec, t.spec = some spec ∧
    spec.containers ≠ [] ∧ completed = {
      metadata := some { t.metadata.getD default with
        labels := some (Labels.merge (t.metadata.getD default).labels labels) }
      spec := some spec.complete } := by
  unfold complete usableSpec?
  cases t.spec with
  | none => simp
  | some spec =>
    cases listed : spec.containers with
    | nil => simp [Option.filter, listed]
    | cons first rest => simp [Option.filter, listed, eq_comm]

theorem complete_eq_ok (given : t.complete labels = .ok completed) : ∃ first,
    t.firstContainer? = some first ∧ completed.firstContainer? = some first.complete ∧
      completed.metadata = some { t.metadata.getD default with
        labels := some (Labels.merge (t.metadata.getD default).labels labels) } := by
  obtain ⟨spec, own, listed, rfl⟩ := complete_eq_ok_iff.mp given
  obtain ⟨first, rest, containers⟩ := List.exists_cons_of_ne_nil listed
  refine ⟨first, ?_, ?_, rfl⟩
  · simp [firstContainer?, own, containers]
  · simp [firstContainer?, PodSpec.complete, containers]

theorem firstEnv_complete (given : t.complete labels = .ok completed) :
    completed.firstEnv = t.firstEnv := by
  obtain ⟨first, before, after, _⟩ := complete_eq_ok given
  rw [firstEnv, firstEnv, before, after]
  rfl

theorem label?_complete (given : t.complete labels = .ok completed) {name value : String}
    (set : labels.get? name = some value) : completed.label? name = some value := by
  obtain ⟨_, _, _, metadata⟩ := complete_eq_ok given
  rw [label?, metadata]
  simp only [Option.bind_some, Labels.merge, Table.get?_union, set, Option.some_or]

end Complete

end PodTemplate

namespace Kernel

open EnvVar

/-- Setting the id changes the first entry of the id variable, and adds one when there is none. -/
theorem named_setId (id : String) (env : List EnvVar) : named idVariable (setId id env) =
    .literal idVariable id :: (named idVariable env).tail := by
  induction env with
  | nil => simp [setId, named, EnvVar.literal]
  | cons var rest ih =>
    unfold setId
    by_cases hit : var.name = idVariable
    · simp [named, EnvVar.literal, hit]
    · simp only [named, if_neg hit] at ih ⊢
      rw [List.filter_cons_of_neg (by simpa using hit), List.filter_cons_of_neg (by simpa using hit), ih]

/-- The entries of the id variable in the first container start with one that has the id as its value;
the entries after the first are those of the template. -/
def Carries (id : String) (before after : List EnvVar) : Prop :=
  ∃ first, first.value = some id ∧
    named idVariable after = first :: (named idVariable before).tail

theorem carries_withId {t : PodTemplate} {first : Container} (present : t.firstContainer? = some first)
    (id : String) : Carries id t.firstEnv (withId id t).firstEnv := by
  refine ⟨.literal idVariable id, rfl, ?_⟩
  rw [withId, PodTemplate.firstEnv, PodTemplate.firstContainer?_mapFirstContainer, PodTemplate.firstEnv,
    present]
  exact named_setId id _

theorem carries_templateId {t : PodTemplate} {id : String} (found : templateId? t = some id) :
    id ≠ "" ∧ Carries id t.firstEnv t.firstEnv := by
  unfold templateId? at found
  cases present : t.firstContainer? with
  | none => simp [present] at found
  | some first =>
    cases entry : (first.env.getD []).find? fun var => var.name = idVariable with
    | none => simp [present, entry] at found
    | some var =>
      simp only [present, entry, Option.bind_eq_bind, Option.bind_some, Option.filter_eq_some_iff] at found
      have head := head?_named idVariable (first.env.getD [])
      rw [entry] at head
      obtain ⟨rest, shape⟩ := List.head?_eq_some_iff.mp head
      refine ⟨by simpa using found.2, var, found.1, ?_⟩
      rw [PodTemplate.firstEnv, present, Option.bind_some, shape, List.tail_cons]

/-- The id is the one of the spec or else the one of the template, and the template that is used carries
it. -/
theorem identify_eq_ok {k : Kernel} {t identified : PodTemplate} {id : String}
    (given : k.identify t = .ok (id, identified)) (contains : t.firstContainer?.isSome) :
    k.spec.kernelId.or (templateId? t) = some id ∧ id ≠ "" ∧
      Carries id t.firstEnv identified.firstEnv := by
  unfold identify at given
  cases own : k.spec.kernelId with
  | some text =>
    obtain ⟨first, present⟩ := Option.isSome_iff_exists.mp contains
    simp only [own] at given
    split at given
    · cases given
    · rename_i full
      cases given
      exact ⟨rfl, by simpa using full, carries_withId present id⟩
  | none =>
    cases found : templateId? t with
    | none =>
      simp only [own, found] at given
      cases given
    | some text =>
      simp only [own, found] at given
      cases given
      exact ⟨rfl, carries_templateId found⟩

theorem firstContainer?_identify {k : Kernel} {t identified : PodTemplate} {id : String}
    (given : k.identify t = .ok (id, identified)) :
    identified.firstContainer?.isSome = t.firstContainer?.isSome := by
  unfold identify at given
  split at given
  · split at given
    · cases given
    · cases given
      rw [withId, PodTemplate.firstContainer?_mapFirstContainer, Option.isSome_map]
  · split at given
    · cases given
      rfl
    · cases given

/-- The deployment that was generated for a kernel with the id. -/
structure Runs (k : Kernel) (id : String) (t : PodTemplate) (spec : DeploymentSpec) : Prop where
  source : k.spec.kernelId.or (templateId? t) = some id
  nonempty : id ≠ ""
  labelled : spec.template.label? Label.kernelId = some id
  carried : Carries id t.firstEnv spec.template.firstEnv

theorem children_eq_ok {k : Kernel} {t : PodTemplate} {set : ChildSet}
    (given : k.children t = .ok set) : ∃ o spec id,
      set.toList = [.deployment o] ∧ o.spec = some spec ∧ k.Runs id t spec := by
  unfold children at given
  cases identified : k.identify t with
  | error e =>
    rw [identified] at given
    cases given
  | ok pair =>
    obtain ⟨id, used⟩ := pair
    cases complete : used.complete ((Labels.selector Label.kernel k.ns k.name).insert Label.kernelId id)
    all_goals
      simp only [identified, bind, Except.bind, complete] at given
      cases given
    rename_i completed
    obtain ⟨first, present, _⟩ := PodTemplate.complete_eq_ok complete
    have contains : t.firstContainer?.isSome := by
      rw [← firstContainer?_identify identified, present]
      rfl
    obtain ⟨source, nonempty, carried⟩ := identify_eq_ok identified contains
    refine ⟨_, _, id, rfl, rfl, source, nonempty, ?_, ?_⟩
    · apply PodTemplate.label?_complete complete
      rw [Table.get?_insert, if_pos rfl]
    · show Carries id t.firstEnv completed.firstEnv
      rw [PodTemplate.firstEnv_complete complete]
      exact carried

/-- The container runs with the id when the template does not end the entries of the variable with another
value, and only then. -/
theorem effective_iff {id : String} {before after : List EnvVar} (carried : Carries id before after) :
    (effective? idVariable after).bind EnvVar.value = some id ↔
      ∀ last ∈ (named idVariable before).tail.getLast?, last.value = some id := by
  obtain ⟨first, value, entries⟩ := carried
  rw [effective?, entries]
  cases ending : (named idVariable before).tail.getLast? with
  | none =>
    rw [List.getLast?_eq_none_iff.mp ending]
    simp [value]
  | some last => simp [List.getLast?_cons, ending]

/-- Whenever a kernel gets its deployment, the pod is labelled with the one id of the kernel, which is
also the value of the first id variable of its first container. The variable takes effect with this value
if and only if the template does not end a list of several entries with another value. -/
theorem kernel_id_takes_effect_iff {k : Kernel} {t : PodTemplate} {set : ChildSet}
    (given : k.children t = .ok set) : ∃ o spec id,
      set.toList = [.deployment o] ∧ o.spec = some spec ∧
      k.spec.kernelId.or (templateId? t) = some id ∧ id ≠ "" ∧
      spec.template.label? Label.kernelId = some id ∧
      (named idVariable spec.template.firstEnv).head?.bind EnvVar.value = some id ∧
      ((effective? idVariable spec.template.firstEnv).bind EnvVar.value =
          spec.template.label? Label.kernelId ↔
        ∀ last ∈ (named idVariable t.firstEnv).tail.getLast?, last.value = some id) := by
  obtain ⟨o, spec, id, members, present, runs⟩ := children_eq_ok given
  refine ⟨o, spec, id, members, present, runs.source, runs.nonempty, runs.labelled, ?_, ?_⟩
  · obtain ⟨first, value, entries⟩ := runs.carried
    rw [entries]
    exact value
  · rw [runs.labelled]
    exact effective_iff runs.carried

def identified (id : String) : Kernel :=
  { (default : Kernel) with
    metadata := { (default : ObjectMeta) with name := some "k1", ns := some "team" }
    spec := { (default : Spec) with kernelId := some id } }

def listing (ids : List String) : PodTemplate where
  metadata := none
  spec := some { (default : PodSpec) with containers := [{ (default : Container) with
    name := "kernel"
    env := some (ids.map (.literal idVariable)) }] }

theorem listed_once_takes_effect :
    ∃ set, (identified "a").children (listing ["b"]) = .ok set ∧ ∃ o spec,
      set.toList = [.deployment o] ∧ o.spec = some spec ∧
        spec.template.label? Label.kernelId = some "a" ∧
        (effective? idVariable spec.template.firstEnv).bind EnvVar.value = some "a" := by
  refine ⟨_, rfl, ?_⟩
  obtain ⟨o, spec, id, members, present, source, _, labelled, _, agrees⟩ :=
    kernel_id_takes_effect_iff (k := identified "a") (t := listing ["b"]) rfl
  have mine : some "a" = some id := source
  rw [labelled, ← mine] at agrees
  exact ⟨o, spec, members, present, labelled.trans mine.symm, agrees.mpr nofun⟩

/-- When the template lists the variable twice, the pod is labelled with the id of the kernel and runs
with the second value of the template. -/
theorem listed_twice_runs_with_the_last :
    ∃ set, (identified "a").children (listing ["b", "c"]) = .ok set ∧ ∃ o spec,
      set.toList = [.deployment o] ∧ o.spec = some spec ∧
        spec.template.label? Label.kernelId = some "a" ∧
        (effective? idVariable spec.template.firstEnv).bind EnvVar.value = some "c" := by
  refine ⟨_, rfl, _, _, rfl, rfl, ?_, ?_⟩
  · decide
  · decide

end Kernel

end JupyterWorkloads
