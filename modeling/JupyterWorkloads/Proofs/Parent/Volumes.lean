import JupyterWorkloads.Proofs.Parent.Wiring
import Mathlib.Data.List.DropRight
import Mathlib.Data.List.Nodup

/-! The volumes of a gateway. Each entry of its list of kernel specs gets a volume and a mount, in the order
of the list, so that Kubernetes can take the pod only when no kernel spec is named twice. -/
namespace JupyterWorkloads.Gateway

open Generating

/-- The path is the base with slashes behind it, and the base ends in none. -/
def IsTrimmed (path base : String) : Prop :=
  (∃ n, path.toList = base.toList ++ List.replicate n '/') ∧ base.toList.getLast? ≠ some '/'

theorem isTrimmed_trimmedPath (path : String) : IsTrimmed path (trimmedPath path) := by
  have chars : (trimmedPath path).toList = path.toList.rdropWhile (· == '/') := String.toList_ofList
  rw [IsTrimmed, chars]
  constructor
  · have slashes : ∀ c ∈ path.toList.rtakeWhile (· == '/'), c = '/' := by
      intro c hc
      simpa using List.mem_rtakeWhile_imp hc
    refine ⟨(path.toList.rtakeWhile (· == '/')).length, ?_⟩
    rw [← List.eq_replicate_of_mem slashes, List.rdropWhile_append_rtakeWhile]
  · intro last
    obtain ⟨nonempty, slash⟩ := List.mem_getLast?_eq_getLast last
    exact List.rdropWhile_last_not (· == '/') _ nonempty (by simp [← slash])

theorem mountPath_injective (d : Defaults) :
    Function.Injective fun kernel => (kernelMount d kernel).mountPath := by
  intro kernel other same
  have chars := congrArg String.toList same
  simp only [kernelMount, String.toList_append] at chars
  exact String.toList_injective (List.append_cancel_left chars)

variable {g : Gateway} {d : Defaults} {r : Resolver}

theorem generate_ok
    (found : ∀ name ∈ g.kernelNames, ∃ spec, r ⟨.kernelSpec, g.ns, name⟩ = .ok (.kernelSpec spec)) :
    (resolve r (g.generate d)).value = .ok (g.children d) := by
  have looked := resolveAll_eq_ok_iff.mpr found
  rw [resolve_eq]
  change Outcome.value (Program.run _ (Program.bind (Program.bind _ _) _) ()) = _
  rw [Program.value_bind, Program.value_bind, looked]
  rfl

/-- A gateway whose kernel specs are all there gets its children. Each entry has its volume and is mounted
read-only under the kernel path; names and paths are distinct when the entries are, and only then. -/
theorem volumes_are_distinct_iff
    (found : ∀ name ∈ g.kernelNames, ∃ spec, r ⟨.kernelSpec, g.ns, name⟩ = .ok (.kernelSpec spec)) :
    IsTrimmed d.kernelPath (trimmedPath d.kernelPath) ∧
    ∃ (set : ChildSet) (x : Parts), (resolve r (g.generate d)).value = .ok set ∧ x.Of set ∧
      x.volumes.map Volume.name = g.kernelNames ∧
      x.mounts.map VolumeMount.name = g.kernelNames ∧
      (∀ mount ∈ x.mounts, mount.readOnly = some true ∧
        mount.mountPath = trimmedPath d.kernelPath ++ "/" ++ mount.name) ∧
      ((x.volumes.map Volume.name).Nodup ↔ g.kernelNames.Nodup) ∧
      ((x.mounts.map VolumeMount.mountPath).Nodup ↔ g.kernelNames.Nodup) := by
  have volumes : (g.parts d).volumes.map Volume.name = g.kernelNames := by
    show (g.kernelNames.map kernelVolume).map Volume.name = _
    rw [List.map_map]
    exact List.map_id _
  have mounts : (g.parts d).mounts = g.kernelNames.map (kernelMount d) := rfl
  refine ⟨isTrimmed_trimmedPath _, g.children d, g.parts d, generate_ok found, g.parts_of d, volumes,
    ?_, ?_, by rw [volumes], ?_⟩
  · rw [mounts, List.map_map]
    exact List.map_id _
  · intro mount listed
    obtain ⟨kernel, _, rfl⟩ := List.mem_map.mp (mounts ▸ listed)
    exact ⟨rfl, rfl⟩
  · rw [mounts, List.map_map]
    exact List.nodup_map_iff (mountPath_injective d)

theorem two_kernels_have_two_volumes :
    let g : Gateway := { Gateway.plain "team" "lab" "1" with
      spec := { (default : Gateway.Spec) with kernels := some ["python", "r"] } }
    let d : Defaults := { (default : Defaults) with kernelPath := "/kernels//" }
    let resolver : Resolver := fun l => .ok (.kernelSpec (KernelSpec.plain l.ns l.name "3" none))
    ∃ (set : ChildSet) (x : Parts), (resolve resolver (g.generate d)).value = .ok set ∧ x.Of set ∧
      (x.volumes.map Volume.name).Nodup ∧ (x.mounts.map VolumeMount.mountPath).Nodup ∧
      (∀ mount ∈ x.mounts, mount.mountPath = "/kernels" ++ "/" ++ mount.name) ∧
      IsTrimmed "/kernels//" "/kernels" := by
  intro g d resolver
  have found : ∀ name ∈ g.kernelNames,
      ∃ spec, resolver ⟨.kernelSpec, g.ns, name⟩ = .ok (.kernelSpec spec) := fun _ _ => ⟨_, rfl⟩
  have distinct : g.kernelNames.Nodup := by decide
  have trimmed : trimmedPath "/kernels//" = "/kernels" := by decide
  obtain ⟨path, set, x, given, parts, _, _, mounts, volumes_iff, paths_iff⟩ :=
    volumes_are_distinct_iff (d := d) found
  rw [trimmed] at path
  refine ⟨set, x, given, parts, volumes_iff.mpr distinct, paths_iff.mpr distinct, ?_, path⟩
  intro mount listed
  rw [(mounts mount listed).2, trimmed]

/-- A kernel spec that is named twice is found twice. Its config map is mounted twice at one path. -/
theorem kernel_named_twice_is_mounted_twice :
    let g : Gateway := { Gateway.plain "team" "lab" "1" with
      spec := { (default : Gateway.Spec) with kernels := some ["python", "python"] } }
    let resolver : Resolver := fun l => .ok (.kernelSpec (KernelSpec.plain l.ns l.name "3" none))
    let set := g.children default
    (resolve resolver (g.generate default)).value = .ok set ∧ ∃ x : Parts, x.Of set ∧
      ¬ (x.volumes.map Volume.name).Nodup ∧ ¬ (x.mounts.map VolumeMount.mountPath).Nodup := by
  intro g resolver set
  refine ⟨rfl, g.parts default, g.parts_of default, ?_, ?_⟩
  · decide
  · decide

end JupyterWorkloads.Gateway
