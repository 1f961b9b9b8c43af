import JupyterWorkloads.Proofs.Kernel.Identity
import JupyterWorkloads.Proofs.Watch.Coverage

/-! Which pods a parent selects. Its workload and the service in front of it select by the pair that
names the parent, and its pods always carry this pair. The other labels of the pods are those of the pod
template that its user wrote. -/
namespace JupyterWorkloads

namespace Labels

theorem get?_selector (label ns name key : String) : (selector label ns name).get? key =
    if label = key then some name else if Label.ns = key then some ns else none := by
  have table : selector label ns name =
      ((∅ : StringTable).insert Label.ns ns).insert label name := rfl
  rw [table, Table.get?_insert, Table.get?_insert, Table.get?_empty]

end Labels

/-- The labels that pods get from the control plane, whatever their template says. -/
def ParentKind.ownLabels (kind : ParentKind) : List String :=
  [Label.ns, kind.label] ++ if kind = .kernel then [Label.kernelId] else []

theorem ParentKind.label_ne_ns (kind : ParentKind) : kind.label ≠ Label.ns := by
  cases kind <;> decide

theorem ParentKind.label_foreign {kind other : ParentKind} (differ : kind ≠ other) :
    other.label ∉ kind.ownLabels := by
  cases kind <;> cases other <;> first | exact absurd rfl differ | decide

/-- The labels that a parent puts on its pods: they name it, and its user has no say in them. -/
structure Labels.OwnOf (labels : StringTable) (p : Parent) : Prop where
  ns : labels.get? Label.ns = some p.ns
  name : labels.get? p.kind.label = some p.name
  others : ∀ key ∉ p.kind.ownLabels, labels.get? key = none

theorem Labels.ownOf_selector (p : Parent) : OwnOf (selector p.kind.label p.ns p.name) p where
  ns := by rw [get?_selector, if_neg p.kind.label_ne_ns, if_pos rfl]
  name := by rw [get?_selector, if_pos rfl]
  others key hk := by
    simp only [ParentKind.ownLabels, List.cons_append, List.nil_append, List.mem_cons, not_or] at hk
    obtain ⟨space, label, _⟩ := hk
    rw [get?_selector, if_neg (Ne.symm label), if_neg (Ne.symm space)]

theorem Labels.ownOf_identified (k : Kernel) (id : String) :
    OwnOf ((selector Label.kernel k.ns k.name).insert Label.kernelId id) (.kernel k) where
  ns := by
    have other : Label.kernelId ≠ Label.ns := by decide
    rw [Table.get?_insert, if_neg other]
    exact (ownOf_selector (.kernel k)).ns
  name := by
    have other : Label.kernelId ≠ ParentKind.kernel.label := by decide
    rw [Table.get?_insert]
    exact (if_neg other).trans (ownOf_selector (.kernel k)).name
  others key hk := by
    have listed : Label.kernelId ∈ ParentKind.kernel.ownLabels := by decide
    have other : Label.kernelId ≠ key := fun same => hk (same ▸ listed)
    rw [Table.get?_insert, if_neg other]
    exact (ownOf_selector (.kernel k)).others key hk

def Resolver.template? (r : Resolver) (ns name : String) : Option PodTemplate :=
  match r ⟨.kernelTemplate, ns, name⟩ with
  | .ok (.kernelTemplate found) => found.spec.template
  | _ => none

/-- The pod template that the user of a parent wrote. -/
def Parent.template? (r : Resolver) : Parent → Option PodTemplate
  | gateway _ => none
  | kernelSpec _ => none
  | kernel k => k.spec.template.or (k.spec.templateRef.bind fun ref => r.template? k.ns ref.name)
  | notebook n => n.spec.template

def Deployment.podLabel? (o : Deployment) (key : String) : Option String :=
  o.spec.bind fun spec => spec.template.label? key

/-- What a workload or a service selects its pods by. -/
def Child.selector? : Child → Option StringTable
  | .deployment o => o.spec.bind fun spec => spec.selector.matchLabels
  | .service o => o.spec.bind ServiceSpec.selector
  | _ => none

def Child.Selects (c : Child) (o : Deployment) : Prop :=
  ∃ selector, c.selector? = some selector ∧
    ∀ key value, selector.get? key = some value → o.podLabel? key = some value

/-- The pods of a deployment are labelled for a parent, over a template. -/
structure Deployment.LabelledFor (o : Deployment) (p : Parent) (t : Option PodTemplate) : Prop where
  ns : o.podLabel? Label.ns = some p.ns
  name : o.podLabel? p.kind.label = some p.name
  foreign : ∀ key ∉ p.kind.ownLabels, o.podLabel? key = t.bind fun t => t.label? key

def Child.SelectsBy (c : Child) (p : Parent) : Prop :=
  c.selector? = some (Labels.selector p.kind.label p.ns p.name)

theorem Child.SelectsBy.selects_iff {c : Child} {q : Parent} (h : c.SelectsBy q) (o : Deployment) :
    c.Selects o ↔ o.podLabel? Label.ns = some q.ns ∧ o.podLabel? q.kind.label = some q.name := by
  have pair := Labels.ownOf_selector q
  constructor
  · rintro ⟨selector, given, satisfied⟩
    cases h.symm.trans given
    exact ⟨satisfied _ _ pair.ns, satisfied _ _ pair.name⟩
  · rintro ⟨space, label⟩
    refine ⟨_, h, fun key value wanted => ?_⟩
    rw [Labels.get?_selector] at wanted
    split at wanted
    · next hit => rw [← hit, label, wanted]
    · split at wanted
      · next hit => rw [← hit, space, wanted]
      · cases wanted

theorem Deployment.labelledFor_ofTemplate {p : Parent} {t : Option PodTemplate}
    {template : PodTemplate} {labels : StringTable} (own : Labels.OwnOf labels p)
    (carries : ∀ key, template.label? key = (labels.get? key).or (t.bind fun t => t.label? key))
    (metadata : ObjectMeta) (selector : StringTable) :
    (ofTemplate metadata selector template).LabelledFor p t where
  ns := (carries Label.ns).trans (by rw [own.ns]; rfl)
  name := (carries p.kind.label).trans (by rw [own.name]; rfl)
  foreign key hk := (carries key).trans (by rw [own.others key hk]; rfl)

namespace PodTemplate

variable {t completed : PodTemplate} {labels : StringTable}

theorem get?_labels (t : PodTemplate) (key : String) :
    ((t.metadata.getD default).labels.getD ∅).get? key = t.label? key := by
  rw [label?]
  cases t.metadata with
  | none => rfl
  | some m => cases labelled : m.labels <;> simp [labelled]

theorem label?_completed (given : t.complete labels = .ok completed) (key : String) :
    completed.label? key = (labels.get? key).or (t.label? key) := by
  obtain ⟨_, _, _, metadata⟩ := complete_eq_ok given
  have merged := Table.get?_union ((t.metadata.getD default).labels.getD ∅) labels key
  rw [label?, metadata]
  exact merged.trans (congrArg _ (t.get?_labels key))

theorem label?_mapFirstContainer (f : Container → Container) (key : String) :
    (t.mapFirstContainer f).label? key = t.label? key := rfl

end PodTemplate

/-- The pods of the set are labelled for a parent over a template, and what selects pods selects them by
the pair of the parent. -/
structure ChildSet.LabelledFor (set : ChildSet) (p : Parent) (t : Option PodTemplate) : Prop where
  labelled : ∀ o, .deployment o ∈ set.toList → o.LabelledFor p t
  selects : ∀ c ∈ set.toList, c.kind = .deployment ∨ c.kind = .service → c.SelectsBy p

theorem ChildSet.labelledFor_deployment {p : Parent} {t : Option PodTemplate} {template : PodTemplate}
    (metadata : ObjectMeta) (labelled : (Deployment.ofTemplate metadata
      (Labels.selector p.kind.label p.ns p.name) template).LabelledFor p t) :
    LabelledFor (.ofList [.deployment
      (.ofTemplate metadata (Labels.selector p.kind.label p.ns p.name) template)]) p t where
  labelled o ho := by
    cases List.mem_singleton.mp ho
    exact labelled
  selects c hc _ := by
    cases List.mem_singleton.mp hc
    rfl

open Generating

theorem Gateway.labelledFor (g : Gateway) (d : Defaults) :
    (g.children d).LabelledFor (.gateway g) none := by
  have members := g.toList_children d
  have own : Labels.OwnOf g.selector (.gateway g) := Labels.ownOf_selector (.gateway g)
  refine ⟨?_, ?_⟩
  · intro o ho
    simp only [members, List.mem_cons, List.not_mem_nil, or_false, reduceCtorEq, false_or,
      Child.deployment.injEq] at ho
    rw [ho]
    exact Deployment.labelledFor_ofTemplate own (fun key => Option.or_none.symm) _ _
  · intro c hc selecting
    simp only [members, List.mem_cons, List.not_mem_nil, or_false] at hc
    rcases hc with rfl | rfl | rfl | rfl
    · rcases selecting with none | none <;> cases none
    · rcases selecting with none | none <;> cases none
    · rfl
    · rfl

theorem Kernel.label?_identify {k : Kernel} {t identified : PodTemplate} {id : String}
    (given : k.identify t = .ok (id, identified)) (key : String) :
    identified.label? key = t.label? key := by
  unfold identify at given
  split at given
  · split at given <;> cases given
    rfl
  · split at given <;> cases given
    rfl

theorem Kernel.labelledFor (k : Kernel) {t : PodTemplate} {set : ChildSet}
    (given : k.children t = .ok set) : set.LabelledFor (.kernel k) (some t) := by
  obtain ⟨id, identified, completed, found, complete, rfl⟩ := children_cases given
  refine ChildSet.labelledFor_deployment (p := .kernel k) _ ?_
  refine Deployment.labelledFor_ofTemplate (Labels.ownOf_identified k id) (fun key => ?_) _ _
  rw [PodTemplate.label?_completed complete, label?_identify found]
  rfl

theorem Notebook.labelledFor (n : Notebook) {d : Defaults} {set : ChildSet}
    (given : n.children d = .ok set) : set.LabelledFor (.notebook n) n.spec.template := by
  obtain ⟨completed, _, complete, _, rfl⟩ := children_cases given
  refine ChildSet.labelledFor_deployment (p := .notebook n) _ ?_
  refine Deployment.labelledFor_ofTemplate (Labels.ownOf_selector (.notebook n)) (fun key => ?_) _ _
  rw [PodTemplate.label?_mapFirstContainer, PodTemplate.label?_completed complete]
  cases n.spec.template <;> rfl

theorem KernelSpec.labelledFor (k : KernelSpec) (d : Defaults) :
    (k.children d).LabelledFor (.kernelSpec k) none := by
  have members := k.toList_children d
  refine ⟨?_, ?_⟩
  · intro o ho
    rw [members] at ho
    cases List.mem_singleton.mp ho
  · intro c hc selecting
    rw [members, List.mem_singleton] at hc
    rw [hc] at selecting
    rcases selecting with none | none <;> cases none

theorem Generating.value_ofExcept {α : Type} (r : Resolver) (result : Except InvalidSpec α) :
    (resolve r (ofExcept result)).value = result.mapError .validation := by
  cases result <;> rfl

theorem Generating.value_ofResolving {α β : Type} (r : Resolver) (p : Resolving β)
    (f : β → Generating α) : (resolve r (ofResolving p >>= f)).value =
      ((p.run.run r.answer ()).value.mapError .reference).bind fun b => (resolve r (f b)).value := by
  simp only [resolve_eq]
  change Outcome.value (Program.run _ (Program.bind (Program.bind p.run _) _) ()) = _
  rw [Program.value_bind, Program.value_bind]
  cases (p.run.run r.answer ()).value <;> rfl

theorem Generating.resolve_ofResolving {α β : Type} {r : Resolver} {p : Resolving β}
    {f : β → Generating α} {a : α} (given : (resolve r (ofResolving p >>= f)).value = .ok a) :
    ∃ b, (p.run.run r.answer ()).value = .ok b ∧ (resolve r (f b)).value = .ok a := by
  rw [value_ofResolving] at given
  cases found : (p.run.run r.answer ()).value with
  | error e =>
    rw [found] at given
    cases given
  | ok b =>
    rw [found] at given
    exact ⟨b, rfl, given⟩

theorem Generating.resolve_ofExcept {α : Type} {r : Resolver} {result : Except InvalidSpec α} {a : α}
    (given : (resolve r (ofExcept result)).value = .ok a) : result = .ok a := by
  cases result with
  | error reason => cases given
  | ok b =>
    cases given
    rfl

namespace Kernel

variable {k : Kernel} {r : Resolver} {t : PodTemplate} {set : ChildSet}

def chosen (k : Kernel) (r : Resolver) : Except ReconcileError PodTemplate :=
  match k.spec.template, k.spec.templateRef with
  | some t, _ => .ok t
  | none, none => .error (.validation .noTemplateSource)
  | none, some ref =>
    match r ⟨.kernelTemplate, k.ns, ref.name⟩ with
    | .ok (.kernelTemplate found) =>
      found.spec.template.elim (.error (.validation (.emptyTemplate ref.name))) .ok
    | .ok (.kernelSpec _) => .error (.reference (.unexpectedKind ⟨.kernelTemplate, k.ns, ref.name⟩))
    | .error e => .error (.reference e)

theorem value_generate (k : Kernel) (r : Resolver) : (resolve r k.generate).value =
    (k.chosen r).bind fun t => (k.children t).mapError .validation := by
  unfold generate chosen
  cases k.spec.template with
  | some t => exact value_ofExcept r _
  | none =>
    cases k.spec.templateRef with
    | none => rfl
    | some ref =>
      simp only [value_ofResolving, Lookups.kernelTemplate_run, Program.run, Resolver.answer]
      rcases r ⟨.kernelTemplate, k.ns, ref.name⟩ with e | spec | found
      · rfl
      · rfl
      · obtain ⟨_, _ | t⟩ := found
        · rfl
        · exact value_ofExcept r _

theorem chosen_eq_ok_iff : k.chosen r = .ok t ↔ (Parent.kernel k).template? r = some t := by
  have written : (Parent.kernel k).template? r =
      k.spec.template.or (k.spec.templateRef.bind fun ref => r.template? k.ns ref.name) := rfl
  rw [written, chosen]
  cases k.spec.template with
  | some own => simp
  | none =>
    cases k.spec.templateRef with
    | none => simp
    | some ref =>
      simp only [Resolver.template?, Option.none_or, Option.bind_some]
      rcases r ⟨.kernelTemplate, k.ns, ref.name⟩ with e | spec | found
      · simp
      · simp
      · cases own : found.spec.template <;> simp [own]

theorem generate_eq_ok_iff : (resolve r k.generate).value = .ok set ↔
    ∃ t, (Parent.kernel k).template? r = some t ∧ k.children t = .ok set := by
  rw [value_generate]
  simp only [← chosen_eq_ok_iff]
  cases k.chosen r with
  | error e => simp [Except.bind]
  | ok t =>
    have validated : (k.children t).mapError ReconcileError.validation = .ok set ↔ k.children t = .ok set := by
      cases k.children t with
      | error reason => exact ⟨nofun, nofun⟩
      | ok made => constructor <;> (rintro ⟨⟩; rfl)
    simpa [Except.bind] using validated

end Kernel

/-- Every generator labels pods and sets selectors for its parent. -/
theorem Parent.labelledFor {p : Parent} {d : Defaults} {r : Resolver} {set : ChildSet}
    (given : (resolve r (p.generate d)).value = .ok set) : set.LabelledFor p (p.template? r) := by
  cases p with
  | gateway g =>
    have gives : Gives (· = g.children d) (g.generate d) := gives_bind fun _ => gives_pure rfl
    rw [gives.resolve given]
    exact g.labelledFor d
  | kernelSpec k =>
    cases given
    exact k.labelledFor d
  | kernel k =>
    obtain ⟨t, source, made⟩ := Kernel.generate_eq_ok_iff.mp given
    rw [source]
    exact k.labelledFor made
  | notebook n => exact n.labelledFor (resolve_ofExcept given)

/-- The workload or the service of a parent selects the pods of another one exactly when the two are in one
namespace and either have one kind and name, or are of different kinds and the template that the user of
the pods wrote carries the label that names the parent. -/
theorem pods_are_selected_iff {p q : Parent} {d d' : Defaults} {r r' : Resolver} {set set' : ChildSet}
    (given : (resolve r (p.generate d)).value = .ok set)
    (given' : (resolve r' (q.generate d')).value = .ok set') {o : Deployment} {c : Child}
    (ho : .deployment o ∈ set.toList) (hc : c ∈ set'.toList)
    (selecting : c.kind = .deployment ∨ c.kind = .service) :
    c.Selects o ↔ p.ns = q.ns ∧
      (p.kind = q.kind ∧ p.name = q.name ∨
        p.kind ≠ q.kind ∧ ∃ t, p.template? r = some t ∧ t.label? q.kind.label = some q.name) := by
  have labelled := (Parent.labelledFor given).labelled o ho
  have pair := (Parent.labelledFor given').selects c hc selecting
  rw [pair.selects_iff, labelled.ns, Option.some.injEq]
  refine and_congr_right fun _ => ?_
  by_cases same : p.kind = q.kind
  · rw [← same, labelled.name, Option.some.injEq]
    simp
  · -- The label of another kind is one that the pods have from their user, if at all.
    have user := labelled.foreign q.kind.label (ParentKind.label_foreign same)
    rw [user, Option.bind_eq_some_iff]
    simp [same]

theorem plain_notebook_is_not_selected :
    let g := Gateway.plain "team" "lab" "1"
    let n := Notebook.plain "team" "nb" "2" "lab"
    let r : Resolver := fun l => .error (.notFound l)
    ∃ set o, (resolve r ((Parent.notebook n).generate default)).value = .ok set ∧
      .deployment o ∈ set.toList ∧ ¬ (Child.service (g.service default)).Selects o := by
  intro g n r
  have given' : (resolve r ((Parent.gateway g).generate default)).value = .ok (g.children default) :=
    Gateway.resolve_generate rfl default r
  have served : .service (g.service default) ∈ (g.children default).toList :=
    .tail _ (.tail _ (.tail _ (.head _)))
  have given : (resolve r ((Parent.notebook n).generate default)).value = .ok _ := rfl
  refine ⟨_, _, given, .head _, fun selected => ?_⟩
  have reached := (pods_are_selected_iff given given' (.head _) served (.inr rfl)).mp selected
  rcases reached with ⟨_, ⟨same, _⟩ | ⟨_, t, template, _⟩⟩
  · cases same
  · cases template

/-- A notebook whose template carries the label of a gateway. -/
def Notebook.disguised : Notebook :=
  { Notebook.plain "team" "nb" "2" "lab" with
    spec := { (default : Notebook.Spec) with
      template := some {
        metadata := some { (default : ObjectMeta) with
          labels := some (Table.ofList [(Label.gateway, "lab")]) }
        spec := some { (default : PodSpec) with containers := [default] } } } }

/-- The workload and the service of the gateway select the pods of such a notebook. -/
theorem disguised_notebook_is_selected :
    let g := Gateway.plain "team" "lab" "1"
    let r : Resolver := fun l => .error (.notFound l)
    ∃ set set' o, (resolve r ((Parent.notebook .disguised).generate default)).value = .ok set ∧
      (resolve r ((Parent.gateway g).generate default)).value = .ok set' ∧
        .deployment o ∈ set.toList ∧
          (∃ o', .deployment o' ∈ set'.toList ∧ (Child.deployment o').Selects o) ∧
            ∃ s, .service s ∈ set'.toList ∧ (Child.service s).Selects o := by
  intro g r
  have given : (resolve r ((Parent.notebook .disguised).generate default)).value = .ok _ := rfl
  have labelled := (Parent.labelledFor given).labelled _ (.head _)
  have name : _ = some "lab" := labelled.foreign Label.gateway (by decide)
  refine ⟨_, g.children default, _, given, Gateway.resolve_generate rfl default r, .head _, ?_, ?_⟩
  · have listed : .deployment _ ∈ (g.children default).toList := .tail _ (.tail _ (.head _))
    have matched := (g.labelledFor default).selects _ listed (.inl rfl)
    exact ⟨_, listed, (matched.selects_iff _).mpr ⟨labelled.ns, name⟩⟩
  · have listed : .service _ ∈ (g.children default).toList := .tail _ (.tail _ (.tail _ (.head _)))
    have matched := (g.labelledFor default).selects _ listed (.inr rfl)
    exact ⟨_, listed, (matched.selects_iff _).mpr ⟨labelled.ns, name⟩⟩

end JupyterWorkloads
