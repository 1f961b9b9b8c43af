import JupyterWorkloads.Proofs.Parent.Isolation

/-! What becomes of a pod template. A template with a container always gets its pods: the defaults are filled
in, the first container may be changed on the way, and the labels of the parent are laid over those of the
template. All else is as the template has it. -/
namespace JupyterWorkloads.PodTemplate

def HasContainer (t : PodTemplate) : Prop := ∃ spec, t.spec = some spec ∧ spec.containers ≠ []

/-- The pods are those of the completed template, with `changed` in the place of its first container and the
labels laid over its own. -/
structure Becomes (t : PodTemplate) (labels : StringTable) (first changed : Container)
    (pods : PodTemplate) : Prop where
  spec : ∃ spec rest, t.spec = some spec ∧ spec.containers = first :: rest ∧
    pods.spec = some { spec.complete with containers := changed :: rest.map Container.complete }
  metadata : ∃ merged, pods.metadata = some { t.metadata.getD default with labels := some merged }
  label : ∀ key, pods.label? key = (labels.get? key).or (t.label? key)

variable {t pods : PodTemplate} {labels : StringTable} {first changed : Container}

theorem complete_ok_iff (t : PodTemplate) (labels : StringTable) :
    (∃ pods, t.complete labels = .ok pods) ↔ t.HasContainer := by
  simp only [complete_eq_ok_iff, HasContainer]
  constructor
  · rintro ⟨_, spec, given, listed, _⟩
    exact ⟨spec, given, listed⟩
  · rintro ⟨spec, given, listed⟩
    exact ⟨_, spec, given, listed, rfl⟩

theorem hasContainer_iff (t : PodTemplate) : t.HasContainer ↔ t.firstContainer?.isSome := by
  obtain ⟨metadata, _ | ⟨_ | ⟨first, rest⟩⟩⟩ := t <;> simp [HasContainer, firstContainer?]

theorem mapFirstContainer_id (t : PodTemplate) : t.mapFirstContainer id = t := by
  obtain ⟨metadata, _ | ⟨_ | ⟨first, rest⟩⟩⟩ := t <;> rfl

theorem hasContainer_mapFirstContainer (t : PodTemplate) (f : Container → Container) :
    (t.mapFirstContainer f).HasContainer ↔ t.HasContainer := by
  obtain ⟨metadata, _ | ⟨_ | ⟨first, rest⟩⟩⟩ := t <;> simp [HasContainer, mapFirstContainer]

theorem becomes_of_map_complete {f : Container → Container}
    (given : (t.mapFirstContainer f).complete labels = .ok pods) :
    ∃ first, t.firstContainer? = some first ∧ t.Becomes labels first (f first).complete pods := by
  have label := label?_completed given
  obtain ⟨mapped, own, listed, rfl⟩ := complete_eq_ok_iff.mp given
  obtain ⟨metadata, _ | ⟨_ | ⟨first, rest⟩⟩⟩ := t
  · cases own
  · cases own
    exact absurd rfl listed
  · cases own
    exact ⟨first, rfl, ⟨_, rest, rfl, rfl, rfl⟩, ⟨_, rfl⟩, label⟩

theorem becomes_of_complete (given : t.complete labels = .ok pods) :
    ∃ first, t.firstContainer? = some first ∧ t.Becomes labels first first.complete pods :=
  becomes_of_map_complete (f := id) (t.mapFirstContainer_id.symm ▸ given)

theorem Becomes.mapFirstContainer (h : t.Becomes labels first changed pods) (f : Container → Container) :
    t.Becomes labels first (f changed) (pods.mapFirstContainer f) where
  spec := by
    obtain ⟨spec, rest, own, containers, completed⟩ := h.spec
    exact ⟨spec, rest, own, containers, by simp [PodTemplate.mapFirstContainer, completed]⟩
  metadata := h.metadata
  label := h.label

end JupyterWorkloads.PodTemplate
