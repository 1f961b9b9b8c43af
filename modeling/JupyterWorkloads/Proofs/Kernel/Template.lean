import JupyterWorkloads.Proofs.Pod.Completion

/-! Which pods a kernel runs. Its template is its own or the one it refers to, which takes one lookup; its id
is its own or the one that the template sets for the first container. Where both are there, the kernel gets
the completed template, in which nothing but the one variable may have changed. -/
namespace JupyterWorkloads.Kernel

open Generating

/-- The kernel has no template of its own, and the one it refers to cannot be had. -/
def LookupFails (k : Kernel) (r : Resolver) : Prop :=
  k.spec.template = none ∧ ∃ ref, k.spec.templateRef = some ref ∧
    r.finds ⟨.kernelTemplate, k.ns, ref.name⟩ = false

/-- The kernel runs under the id in a container: it is its own id, or it has none and the first entry of the
variable in the container has this value. -/
structure RunsUnder (k : Kernel) (first : Container) (id : String) : Prop where
  source : k.spec.kernelId = some id ∨ k.spec.kernelId = none ∧ ∃ var,
    ((first.env.getD []).find? fun var => var.name = "KERNEL_ID") = some var ∧ var.value = some id
  nonempty : id ≠ ""

/-- What becomes of an environment. The id of a kernel that has one takes the place of the first entry of the
variable, or is added at the end; otherwise the environment is kept. -/
inductive Identifies (k : Kernel) (id : String) : Option (List EnvVar) → Option (List EnvVar) → Prop where
  | changed {before after : List EnvVar} {var : EnvVar} :
    k.spec.kernelId = some id → (∀ other ∈ before, other.name ≠ "KERNEL_ID") → var.name = "KERNEL_ID" →
      Identifies k id (some (before ++ var :: after))
        (some (before ++ { name := "KERNEL_ID", value := some id, valueFrom := none } :: after))
  | added {env : Option (List EnvVar)} :
    k.spec.kernelId = some id → (∀ var ∈ env.getD [], var.name ≠ "KERNEL_ID") →
      Identifies k id env
        (some (env.getD [] ++ [{ name := "KERNEL_ID", value := some id, valueFrom := none }]))
  | kept {env : Option (List EnvVar)} : k.spec.kernelId = none → Identifies k id env env

/-- The set is one deployment of the template, identified and completed, whose pods are labelled with the
id. -/
def RunsFrom (k : Kernel) (t : PodTemplate) (set : ChildSet) : Prop :=
  ∃ o spec first env id, set.toList = [.deployment o] ∧ o.spec = some spec ∧
    k.RunsUnder first id ∧ k.Identifies id first.env env ∧
    t.Becomes ((Labels.selector Label.kernel k.ns k.name).insert Label.kernelId id) first
      { first.complete with env := env } spec.template ∧
    spec.template.label? "kernel_id" = some id

variable {k : Kernel} {r : Resolver} {t used : PodTemplate} {id : String} {set : ChildSet}

section Choice

theorem chosen_cases (k : Kernel) (r : Resolver) :
    k.LookupFails r ∧ (∃ error, k.chosen r = .error (.reference error)) ∨
      ¬ k.LookupFails r ∧
        ((∃ t, k.chosen r = .ok t) ∨ ∃ reason, k.chosen r = .error (.validation reason)) := by
  rw [chosen, LookupFails]
  cases k.spec.template with
  | some own => exact .inr ⟨by simp, .inl ⟨own, rfl⟩⟩
  | none =>
    cases k.spec.templateRef with
    | none => exact .inr ⟨by simp, .inr ⟨_, rfl⟩⟩
    | some ref =>
      simp only [true_and, Option.some.injEq, exists_eq_left', Resolver.finds]
      rcases r ⟨.kernelTemplate, k.ns, ref.name⟩ with e | spec | found
      · exact .inl ⟨rfl, _, rfl⟩
      · exact .inl ⟨rfl, _, rfl⟩
      · refine .inr ⟨by simp, ?_⟩
        cases given : found.spec.template with
        | none => exact .inr ⟨_, by simp [given]; rfl⟩
        | some t => exact .inl ⟨t, by simp [given]⟩

end Choice

section Identity

theorem setId_cases (id : String) (env : List EnvVar) :
    (∃ before var after, env = before ++ var :: after ∧ (∀ other ∈ before, other.name ≠ idVariable) ∧
      var.name = idVariable ∧ setId id env = before ++ .literal idVariable id :: after) ∨
    (∀ var ∈ env, var.name ≠ idVariable) ∧ setId id env = env ++ [.literal idVariable id] := by
  induction env with
  | nil => exact .inr ⟨nofun, rfl⟩
  | cons var rest ih =>
    unfold setId
    by_cases hit : var.name = idVariable
    · rw [if_pos hit]
      exact .inl ⟨[], var, rest, rfl, nofun, hit, by rw [hit]; rfl⟩
    · rw [if_neg hit]
      rcases ih with ⟨before, found, after, rfl, earlier, named, set⟩ | ⟨absent, set⟩
      · refine .inl ⟨var :: before, found, after, rfl, ?_, named, by rw [set]; rfl⟩
        exact List.forall_mem_cons.mpr ⟨hit, earlier⟩
      · exact .inr ⟨List.forall_mem_cons.mpr ⟨hit, absent⟩, by rw [set]; rfl⟩

def identifiedEnv (k : Kernel) (env : Option (List EnvVar)) : Option (List EnvVar) :=
  match k.spec.kernelId with
  | some id => some (setId id (env.getD []))
  | none => env

theorem identifies_identifiedEnv (named : k.spec.kernelId = some id ∨ k.spec.kernelId = none)
    (env : Option (List EnvVar)) : k.Identifies id env (k.identifiedEnv env) := by
  rcases named with own | none
  · have written : k.identifiedEnv env = some (setId id (env.getD [])) := by rw [identifiedEnv, own]
    rw [written]
    rcases setId_cases id (env.getD []) with ⟨before, var, after, split, earlier, hit, set⟩ | ⟨absent, set⟩
    · obtain rfl : env = some (before ++ var :: after) := by
        cases env with
        | none => simp at split
        | some entries => exact congrArg some split
      rw [set]
      exact .changed own earlier hit
    · rw [set]
      exact .added own absent
  · rw [identifiedEnv, none]
    exact .kept none

theorem runsUnder_iff {first : Container} (present : t.firstContainer? = some first) :
    k.RunsUnder first id ↔ k.spec.kernelId.or (templateId? t) = some id ∧ id ≠ "" := by
  have first_entry : templateId? t = some id ↔
      (∃ var, ((first.env.getD []).find? fun var => var.name = idVariable) = some var ∧
        var.value = some id) ∧ id ≠ "" := by
    simp [templateId?, present, Option.bind_eq_some_iff, Option.filter_eq_some_iff, ← and_assoc]
  constructor
  · rintro ⟨own | ⟨none, entry⟩, full⟩
    · exact ⟨by simp [own], full⟩
    · exact ⟨by simpa [none] using first_entry.mpr ⟨entry, full⟩, full⟩
  · rintro ⟨source, full⟩
    refine ⟨?_, full⟩
    cases own : k.spec.kernelId with
    | some text => exact .inl (by simpa [own] using source)
    | none => exact .inr ⟨rfl, (first_entry.mp (by simpa [own] using source)).1⟩

theorem identify_eq_ok_iff : k.identify t = .ok (id, used) ↔
    (k.spec.kernelId.or (templateId? t) = some id ∧ id ≠ "") ∧
      used = t.mapFirstContainer fun c => { c with env := k.identifiedEnv c.env } := by
  unfold identify identifiedEnv
  cases k.spec.kernelId with
  | some text =>
    by_cases empty : text = ""
    · simp [empty]
    · have full : text.isEmpty = false := by simpa using empty
      simp only [full, Bool.false_eq_true, ↓reduceIte, Except.ok.injEq, Prod.mk.injEq, Option.some_or,
        Option.some.injEq]
      constructor
      · rintro ⟨rfl, rfl⟩
        exact ⟨⟨rfl, empty⟩, rfl⟩
      · rintro ⟨⟨rfl, _⟩, rfl⟩
        exact ⟨rfl, rfl⟩
  | none =>
    have same : (t.mapFirstContainer fun c => { c with env := c.env }) = t := t.mapFirstContainer_id
    cases found : templateId? t with
    | none => simp
    | some text =>
      have full : text ≠ "" := (carries_templateId found).1
      simp only [same, Except.ok.injEq, Prod.mk.injEq, Option.none_or, Option.some.injEq]
      constructor
      · rintro ⟨rfl, rfl⟩
        exact ⟨⟨rfl, full⟩, rfl⟩
      · rintro ⟨⟨rfl, _⟩, rfl⟩
        exact ⟨rfl, rfl⟩

end Identity

theorem children_ok_iff : (∃ set, k.children t = .ok set) ↔
    ∃ first id, t.firstContainer? = some first ∧ k.RunsUnder first id := by
  constructor
  · rintro ⟨set, given⟩
    obtain ⟨id, used, completed, found, complete, _⟩ := children_cases given
    obtain ⟨source, rfl⟩ := identify_eq_ok_iff.mp found
    obtain ⟨first, present, _⟩ := PodTemplate.becomes_of_map_complete complete
    exact ⟨first, id, present, (runsUnder_iff present).mpr source⟩
  · rintro ⟨first, id, present, runs⟩
    have found := identify_eq_ok_iff.mpr ⟨(runsUnder_iff present).mp runs, rfl⟩
    have container : (t.mapFirstContainer fun c => { c with env := k.identifiedEnv c.env }).HasContainer := by
      rw [PodTemplate.hasContainer_mapFirstContainer, PodTemplate.hasContainer_iff, present]
      rfl
    obtain ⟨completed, complete⟩ := (PodTemplate.complete_ok_iff _
      ((Labels.selector Label.kernel k.ns k.name).insert Label.kernelId id)).mpr container
    unfold children
    simp only [found, complete, bind, Except.bind]
    exact ⟨_, rfl⟩

theorem runsFrom_of_children (given : k.children t = .ok set) : k.RunsFrom t set := by
  obtain ⟨id, used, completed, found, complete, rfl⟩ := children_cases given
  obtain ⟨source, rfl⟩ := identify_eq_ok_iff.mp found
  obtain ⟨first, present, becomes⟩ := PodTemplate.becomes_of_map_complete complete
  have runs := (runsUnder_iff present).mpr source
  refine ⟨_, _, first, k.identifiedEnv first.env, id, rfl, rfl, runs, ?_, becomes, ?_⟩
  · exact identifies_identifiedEnv (runs.source.imp_right And.left) first.env
  · exact PodTemplate.label?_complete complete ((Table.get?_insert ..).trans (if_pos rfl))

/-- A kernel looks up the template it refers to unless it brings its own, and nothing else. It gets a
deployment exactly when there is a template with a container in which the kernel has an id; a failed lookup
is reported as such, and everything else that is missing makes the kernel invalid. The deployment runs the
completed template, in which at most the one variable of the first container has changed. -/
theorem kernel_runs_chosen_template (k : Kernel) (d : Defaults) (r : Resolver) :
    let run := resolve r ((Parent.kernel k).generate d)
    run.state = (match k.spec.template, k.spec.templateRef with
      | none, some ref => [⟨.kernelTemplate, k.ns, ref.name⟩]
      | _, _ => []) ∧
    ((∃ set, run.value = .ok set) ↔ ∃ t first id, (Parent.kernel k).template? r = some t ∧
      t.firstContainer? = some first ∧ k.RunsUnder first id) ∧
    (k.LookupFails r → ∃ error, run.value = .error (.reference error)) ∧
    (¬ k.LookupFails r → (∃ set, run.value = .ok set) ∨ ∃ reason, run.value = .error (.validation reason)) ∧
    ∀ set, run.value = .ok set → ∃ t, (Parent.kernel k).template? r = some t ∧ k.RunsFrom t set := by
  intro run
  have value : run.value = (k.chosen r).bind fun t => (k.children t).mapError .validation :=
    k.value_generate r
  refine ⟨?_, ?_, ?_, ?_, ?_⟩
  · have state : run.state = r.through (Parent.kernel k).references := by
      rw [← Parent.lookups_generate _ d]
      exact congrArg Outcome.state (resolve_eq r _)
    rw [state, Parent.references]
    cases k.spec.template <;> cases k.spec.templateRef <;> simp [Resolver.through]
  · constructor
    · rintro ⟨set, given⟩
      obtain ⟨t, source, made⟩ := generate_eq_ok_iff.mp given
      obtain ⟨first, id, runs⟩ := children_ok_iff.mp ⟨set, made⟩
      exact ⟨t, first, id, source, runs⟩
    · rintro ⟨t, first, id, source, runs⟩
      obtain ⟨set, made⟩ := children_ok_iff.mpr ⟨first, id, runs⟩
      exact ⟨set, generate_eq_ok_iff.mpr ⟨t, source, made⟩⟩
  · intro lost
    rcases k.chosen_cases r with ⟨_, error, chosen⟩ | ⟨found, _⟩
    · exact ⟨error, by rw [value, chosen]; rfl⟩
    · exact absurd lost found
  · intro found
    rcases k.chosen_cases r with ⟨lost, _⟩ | ⟨_, ⟨t, chosen⟩ | ⟨reason, chosen⟩⟩
    · exact absurd lost found
    · rw [value, chosen]
      cases made : k.children t with
      | ok set => exact .inl ⟨set, congrArg (Except.mapError ReconcileError.validation) made⟩
      | error reason => exact .inr ⟨reason, congrArg (Except.mapError ReconcileError.validation) made⟩
    · exact .inr ⟨reason, by rw [value, chosen]; rfl⟩
  · intro set given
    obtain ⟨t, source, made⟩ := generate_eq_ok_iff.mp given
    exact ⟨t, source, runsFrom_of_children made⟩

theorem shared_template_is_run :
    let k : Kernel := { identified "a" with
      spec := { (identified "a").spec with templateRef := some { name := "shared" } } }
    let found : Resolver := fun l =>
      .ok (.kernelTemplate { KernelTemplate.plain l.ns l.name with
        spec := { template := some (listing ["b", "c"]) } })
    let missing : Resolver := fun l => .error (.notFound l)
    (resolve found ((Parent.kernel k).generate default)).state = [⟨.kernelTemplate, "team", "shared"⟩] ∧
    (∃ set, (resolve found ((Parent.kernel k).generate default)).value = .ok set ∧
      k.RunsFrom (listing ["b", "c"]) set) ∧
    ∃ error, (resolve missing ((Parent.kernel k).generate default)).value = .error (.reference error) := by
  intro k found missing
  obtain ⟨looked, gets, _, _, runs⟩ := kernel_runs_chosen_template k default found
  obtain ⟨_, _, fails, _, _⟩ := kernel_runs_chosen_template k default missing
  obtain ⟨set, given⟩ := gets.mpr ⟨_, _, "a", rfl, rfl, .inl rfl, by decide⟩
  obtain ⟨t, source, from_template⟩ := runs set given
  cases source
  exact ⟨looked, ⟨set, given, from_template⟩, fails ⟨rfl, _, rfl, rfl⟩⟩

end JupyterWorkloads.Kernel
