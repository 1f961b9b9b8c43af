import JupyterWorkloads.Proofs.Parent.Isolation

/-! How the children of a parent are named, labelled and selected. All of it follows from the kind, the
namespace and the name of the parent. Its spec, the defaults and the objects it refers to have no say in
it, so a workload keeps its selector as long as it exists. -/
namespace JupyterWorkloads

def ParentKind.selectorOf (kind : ParentKind) (ns name : String) : ChildKind → Option StringTable
  | .deployment => some (Table.ofList [(Label.ns, ns), (kind.label, name)])
  | .service => some (Table.ofList [(Label.ns, ns), (kind.label, name)])
  | _ => none

/-- The children are one of each kind that belongs to the kind of the parent. They carry its name, its
namespace and three labels, what selects pods selects them by two of these, and the pods of a workload
satisfy its selector and keep the other labels of the template. -/
structure ChildSet.NamedAfter (set : ChildSet) (p : Parent) (t : Option PodTemplate) : Prop where
  kinds : set.toList.map Child.kind = p.kind.childKinds
  distinct : (set.toList.map Child.key).Nodup
  name : ∀ c ∈ set.toList, c.metadata.name = some p.name
  ns : ∀ c ∈ set.toList, c.metadata.ns = some p.ns
  labels : ∀ c ∈ set.toList, c.metadata.labels = some (Table.ofList
    [(Label.ns, p.ns), (p.kind.label, p.name), (Label.managedBy, Label.manager)])
  selector : ∀ c ∈ set.toList, c.selector? = p.kind.selectorOf p.ns p.name c.kind
  selected : ∀ o, .deployment o ∈ set.toList → (Child.deployment o).Selects o
  kept : ∀ o, .deployment o ∈ set.toList → ∀ key ∉ p.kind.ownLabels,
    o.podLabel? key = t.bind fun t => t.label? key

theorem ChildSet.LabelledFor.selector_eq {set : ChildSet} {p : Parent} {t : Option PodTemplate}
    (h : set.LabelledFor p t) {c : Child} (hc : c ∈ set.toList) :
    c.selector? = p.kind.selectorOf p.ns p.name c.kind := by
  cases c with
  | deployment o => exact h.selects _ hc (.inl rfl)
  | service o => exact h.selects _ hc (.inr rfl)
  | _ => rfl

theorem ChildSet.LabelledFor.selected {set : ChildSet} {p : Parent} {t : Option PodTemplate}
    (h : set.LabelledFor p t) {o : Deployment} (ho : .deployment o ∈ set.toList) :
    (Child.deployment o).Selects o :=
  have labelled := h.labelled o ho
  ((h.selects _ ho (.inl rfl)).selects_iff o).mpr ⟨labelled.ns, labelled.name⟩

open Generating

theorem Parent.namedAfter {p : Parent} {d : Defaults} {r : Resolver} {set : ChildSet}
    (given : (resolve r (p.generate d)).value = .ok set) : set.NamedAfter p (p.template? r) := by
  have generated := Parent.generatedFor given
  have labelled := Parent.labelledFor given
  exact {
    kinds := generated.kinds
    distinct := List.pairwise_map.mpr generated.distinct
    name := fun c hc => by rw [generated.metadata c hc]; rfl
    ns := fun c hc => by rw [generated.metadata c hc]; rfl
    labels := fun c hc => by rw [generated.metadata c hc]; rfl
    selector := fun c hc => labelled.selector_eq hc
    selected := fun o ho => labelled.selected ho
    kept := fun o ho => (labelled.labelled o ho).foreign }

/-- What identifies the children and what they select, listed from nothing but the kind, the namespace and
the name of the parent. -/
theorem ChildSet.NamedAfter.identities {set : ChildSet} {p : Parent} {t : Option PodTemplate}
    (h : set.NamedAfter p t) : set.toList.map (fun c => (c.key, c.selector?)) =
      p.kind.childKinds.map fun kind => (⟨kind, p.ns, p.name⟩, p.kind.selectorOf p.ns p.name kind) := by
  rw [← h.kinds, List.map_map]
  refine List.map_congr_left fun c hc => ?_
  have key : c.key = ⟨c.kind, p.ns, p.name⟩ := by
    rw [Child.key, Child.ns, Child.name, h.name c hc, h.ns c hc]
    rfl
  rw [Function.comp, key, h.selector c hc]

/-- Every generated set is named after its parent, and sets generated for parents of one kind, namespace
and name have the same keys and selectors, whatever their specs, the defaults and the references are. -/
theorem children_are_named_after_parent {p : Parent} {d : Defaults} {r : Resolver} {set : ChildSet}
    (given : (resolve r (p.generate d)).value = .ok set) :
    set.NamedAfter p (p.template? r) ∧
    ∀ (p' : Parent) (d' : Defaults) (r' : Resolver) (set' : ChildSet),
      (resolve r' (p'.generate d')).value = .ok set' →
        p'.kind = p.kind → p'.ns = p.ns → p'.name = p.name →
          set'.toList.map (fun c => (c.key, c.selector?)) =
            set.toList.map fun c => (c.key, c.selector?) := by
  have named := Parent.namedAfter given
  refine ⟨named, ?_⟩
  intro p' d' r' set' given' kind ns name
  rw [(Parent.namedAfter given').identities, named.identities, kind, ns, name]

/-- The notebook with the label of a gateway in its template keeps it, is still selected by its own pair,
and has the key and the selector of the notebook of that name which brings no template. -/
theorem disguised_notebook_keeps_its_selector :
    let p : Parent := .notebook .disguised
    let q : Parent := .notebook (Notebook.plain "team" "nb" "2" "lab")
    let r : Resolver := fun l => .error (.notFound l)
    ∃ set set', (resolve r (p.generate default)).value = .ok set ∧
      (resolve r (q.generate default)).value = .ok set' ∧
        set.NamedAfter p (some (Notebook.disguised.spec.template.getD default)) ∧
          (∀ o, .deployment o ∈ set.toList → o.podLabel? Label.gateway = some "lab") ∧
            set'.toList.map (fun c => (c.key, c.selector?)) =
              set.toList.map fun c => (c.key, c.selector?) := by
  intro p q r
  have given : (resolve r (p.generate default)).value = .ok _ := rfl
  have given' : (resolve r (q.generate default)).value = .ok _ := rfl
  obtain ⟨named, same⟩ := children_are_named_after_parent given
  refine ⟨_, _, given, given', named, ?_, same q default r _ given' rfl rfl rfl⟩
  intro o ho
  have foreign : Label.gateway ∉ p.kind.ownLabels := by decide
  exact named.kept o ho Label.gateway foreign

end JupyterWorkloads
