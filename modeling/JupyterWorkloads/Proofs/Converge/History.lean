import Mathlib.Data.List.Nodup
import JupyterWorkloads.Proofs.Converge.Reliable

/-! Convergence forgets. After any number of passes of one parent the store holds what the last pass
alone would have left, up to what the server counts and allocates. The fingerprint carries this: a stale
object contains no sign of a field that is no longer generated. -/
namespace JupyterWorkloads

namespace Fingerprint

theorem toList_loop (bytes : ByteArray) (i : Nat) (done : List UInt8) :
    ByteArray.toList.loop bytes i done = done.reverse ++ bytes.data.toList.drop i := by
  fun_induction ByteArray.toList.loop bytes i done with
  | case1 i done more ih =>
    have next : bytes.data.toList.drop i = bytes.get! i :: bytes.data.toList.drop (i + 1) := by
      rw [List.drop_eq_getElem_cons (by simpa using more), List.cons.injEq]
      exact ⟨(getElem!_pos bytes.data i more).symm, rfl⟩
    rw [ih, next, List.reverse_cons, List.append_assoc, List.singleton_append]
  | case2 i done ends =>
    have nothing : bytes.data.toList.drop i = [] := List.drop_eq_nil_of_le (Nat.le_of_not_lt ends)
    rw [nothing, List.append_nil]

theorem bytes_eq (v : Json) : bytes v = v.chars.flatMap String.utf8EncodeChar ++ [0xff] := by
  rw [bytes, Json.text, String.toUTF8_eq_toByteArray, String.toByteArray_ofList, List.utf8Encode,
    ByteArray.toList, toList_loop, List.toList_data_toByteArray]
  rfl

theorem ofJson_eq (v : Json) :
    ofJson v = hexWord (SipHash.hash (v.chars.flatMap String.utf8EncodeChar ++ [0xff])) := by
  rw [ofJson, bytes_eq]

end Fingerprint

/-- The metadata without what the server counts and allocates. -/
def ObjectMeta.lasting (m : ObjectMeta) : ObjectMeta :=
  { m with generation := none, resourceVersion := none, uid := none }

namespace Child

open Store.Memory

/-- The body without what the server counts and allocates: the address of a service, the generation that
the status of a deployment is about. -/
def lastingBody : Child → Child
  | .service o => .service { o with spec := o.spec.map ServiceSpec.unaddressed }
  | .deployment o => .deployment { o with
      status := o.status.map fun status => { status with observedGeneration := none } }
  | other => other

/-- The object up to its version, uid and generation, the generation in its status and its address. -/
def essence (c : Child) : Child := c.lastingBody.mapMetadata ObjectMeta.lasting

section Essence

@[simp] theorem metadata_lastingBody (c : Child) : c.lastingBody.metadata = c.metadata := by
  cases c <;> rfl

theorem metadata_essence (c : Child) : c.essence.metadata = c.metadata.lasting := by
  rw [essence, metadata_mapMetadata, metadata_lastingBody]

theorem essence_fillIn (version other : Nat) (c : Child) {m m' : ObjectMeta}
    (lasting : m.lasting = m'.lasting) :
    (fillIn version (c.withMetadata m)).essence = (fillIn other (c.withMetadata m')).essence := by
  have erased : ∀ (n : ObjectMeta) (generation : Option Int64),
      ObjectMeta.lasting { n with generation := generation } = n.lasting := fun _ _ => rfl
  cases c <;>
    simp only [fillIn, essence, withMetadata, mapMetadata, lastingBody, metadata, rollOut, erased,
      lasting, Option.map_some, unaddressed_allocate]

theorem essence_created (version other : Nat) (desired : Child) :
    (created version desired).essence = (created other desired).essence := by
  simp only [created, admitted, unversioned, mapMetadata, withMetadata_withMetadata]
  apply essence_fillIn
  rfl

/-- The addresses that are kept do not belong to the essence. -/
theorem essence_keepAddresses (version : Nat) (live : Child) {desired : Child} (m : ObjectMeta)
    (fresh : desired.Fresh) :
    (fillIn version ((keepAddresses live desired).withMetadata m)).essence =
      (fillIn version (desired.withMetadata m)).essence := by
  cases live <;> cases desired <;> try rfl
  rename_i live desired
  obtain ⟨spec, given, _⟩ := fresh.exists_spec
  obtain ⟨_, spec'⟩ := desired
  cases given
  rcases live with ⟨_, _ | _⟩
  · rfl
  · simp only [keepAddresses, fillIn, essence, withMetadata, lastingBody, mapMetadata,
      metadata, Option.map_some, unaddressed_allocate, Option.getD_some]
    rfl

theorem exists_replaced (version : Nat) (live desired : Child) (owner : OwnerReference) :
    ∃ m, replaced version live desired owner =
        fillIn version ((keepAddresses live desired).withMetadata m) ∧
      m.lasting = (replacement live desired owner).metadata.lasting := by
  simp only [replaced, admitted, carryOver, replacement, mapMetadata, keepAddresses_withMetadata,
    withMetadata_withMetadata, metadata_withMetadata]
  exact ⟨_, rfl, rfl⟩

/-- A replacement that adds nothing to the metadata leaves what a creation would. -/
theorem essence_replaced (version : Nat) {live desired : Child} {owner : OwnerReference}
    (fresh : desired.Fresh)
    (same : (replacement live desired owner).metadata.lasting = desired.metadata.lasting) :
    (replaced version live desired owner).essence = (created version desired).essence := by
  obtain ⟨m, form, lasting⟩ := exists_replaced version live desired owner
  rw [form, essence_keepAddresses version live m fresh]
  simp only [created, admitted, unversioned, mapMetadata, withMetadata_withMetadata,
    metadata_withMetadata]
  apply essence_fillIn
  rw [lasting, same]
  rfl

end Essence

/-- The stored object is what a creation of the child would store, up to its essence. -/
def Shows (owner : OwnerReference) (c stored : Child) : Prop :=
  stored.essence = (created 0 (c.prepare owner)).essence

section Shows

variable {owner : OwnerReference} {c earlier stored live : Child}

theorem Shows.metadata (h : c.Shows owner stored) :
    stored.metadata.lasting = (c.prepare owner).metadata.lasting := by
  have equal := congrArg Child.metadata h
  rw [metadata_essence, metadata_essence, metadata_created] at equal
  exact equal

theorem Shows.annotations (h : c.Shows owner stored) : stored.metadata.annotations =
    some ((c.metadata.annotations.getD ∅).insert desiredHashAnnotation (c.fingerprint owner)) := by
  have equal := congrArg ObjectMeta.annotations h.metadata
  rw [metadata_prepare] at equal
  exact equal

theorem Shows.labels (h : c.Shows owner stored) : stored.metadata.labels = c.metadata.labels := by
  have equal := congrArg ObjectMeta.labels h.metadata
  rw [metadata_prepare] at equal
  exact equal

theorem Shows.owners (h : c.Shows owner stored) : stored.owners = [owner] := by
  have equal := congrArg ObjectMeta.ownerReferences h.metadata
  rw [metadata_prepare] at equal
  rw [Child.owners, show stored.metadata.ownerReferences = some [owner] from equal]
  rfl

theorem Shows.recordedHash? (h : c.Shows owner stored) :
    stored.recordedHash? = some (c.fingerprint owner) := by
  rw [Child.recordedHash?, h.annotations]
  simp

theorem prepare_congr {other : Child} (kinds : c.kind = other.kind)
    (written : (c.withOwner owner).toJson = (other.withOwner owner).toJson) :
    c.prepare owner = other.prepare owner := by
  have same : c.withOwner owner = other.withOwner owner := by
    apply eq_of_toJson _ written
    rw [withOwner, withOwner, kind_mapMetadata, kind_mapMetadata, kinds]
  rw [prepare, prepare, fingerprint, fingerprint, same]

/-- A replacement adds nothing when the live object shows an earlier form of the child. -/
theorem Shows.replacement_lasting (h : earlier.Shows owner live)
    (unannotated : c.metadata.annotations = none) (labelled : c.metadata.labels.isSome)
    (identity : earlier.metadata = c.metadata) :
    (replacement live (c.prepare owner) owner).metadata.lasting =
      (c.prepare owner).metadata.lasting := by
  obtain ⟨labels, given⟩ := Option.isSome_iff_exists.mp labelled
  have stamps : ∀ old new : String,
      ((∅ : StringTable).insert desiredHashAnnotation old).union
        ((∅ : StringTable).insert desiredHashAnnotation new) =
          (∅ : StringTable).insert desiredHashAnnotation new := by
    intro old new
    apply Table.ext_get?
    intro key
    rw [Table.get?_union, Table.get?_insert, Table.get?_insert]
    by_cases hit : desiredHashAnnotation = key <;> simp [hit]
  have noOther : [owner].filter (fun o => o.uid ≠ owner.uid) = [] := by simp
  rw [metadata_replacement, h.labels, h.annotations, h.owners, metadata_prepare, identity, given,
    unannotated, noOther]
  simp only [Option.getD_some, Option.getD_none, stamps, Table.union_self, List.nil_append]
  simp only [ObjectMeta.lasting, given]

end Shows

end Child

namespace Converge

open Store Memory

def Distinguished (forms : List Json) : Prop :=
  ∀ a ∈ forms, ∀ b ∈ forms, Fingerprint.ofJson a = Fingerprint.ofJson b → a = b

def Round.forms (r : Round) : List Json :=
  r.set.toList.map fun c => (c.withOwner r.owner).toJson

/-- Rounds of one parent, whatever its spec was in each. -/
def Round.SameParent (r last : Round) : Prop :=
  r.parent.kind = last.parent.kind ∧ r.parent.ns = last.parent.ns ∧
    r.parent.name = last.parent.name ∧ r.parent.metadata.uid = last.parent.metadata.uid

/-- An object that was absent or showed an earlier form of the child shows the child afterwards. Where it
was kept, equal fingerprints make the two forms one. -/
theorem Became.shows {owner : OwnerReference} {c stored : Child} {slot : Option Child} {version : Nat}
    (h : Became owner slot (c.prepare owner) version stored) (fresh : c.Fresh)
    (unannotated : c.metadata.annotations = none) (labelled : c.metadata.labels.isSome)
    (before : ∀ live, slot = some live → ∃ earlier : Child, earlier.Shows owner live ∧
      earlier.kind = c.kind ∧ earlier.metadata = c.metadata ∧
        (earlier.fingerprint owner = c.fingerprint owner →
          (earlier.withOwner owner).toJson = (c.withOwner owner).toJson)) :
    c.Shows owner stored := by
  cases h with
  | kept present converged =>
    obtain ⟨earlier, shown, kind, _, distinguished⟩ := before _ present
    obtain ⟨_, stamp, _⟩ := Child.isConverged_iff.mp converged
    rw [shown.recordedHash?, Child.recordedHash?_prepare, Option.some.injEq] at stamp
    rw [Child.Shows, ← Child.prepare_congr kind (distinguished stamp)]
    exact shown
  | created _ => exact Child.essence_created version 0 _
  | recreated _ _ _ => exact Child.essence_created version 0 _
  | replaced present _ _ =>
    obtain ⟨earlier, shown, _, identity, _⟩ := before _ present
    have adds := shown.replacement_lasting unannotated labelled identity
    rw [Child.Shows, Child.essence_replaced version (fresh.prepare owner) adds]
    exact Child.essence_created version 0 _

def Shown (owner : OwnerReference) (pool : List Child) (m : Memory) : Prop :=
  ∀ key live, m.object? key = some live → ∃ c ∈ pool, c.key = key ∧ c.Shows owner live

section Pool

variable {owner : OwnerReference} {pool : List Child} {label ns name : String} {m : Memory}
  (identity : ∀ c ∈ pool, c.metadata = Labels.childMetadata label ns name)
  (distinguished : Distinguished (pool.map fun c => (c.withOwner owner).toJson))

include identity distinguished

/-- A pass over a store that shows children of the pool leaves its own children shown. -/
theorem converge_shows {set : ChildSet} (succeeds : Succeeds owner set m) (shown : Shown owner pool m)
    (members : ∀ c ∈ set.toList, c ∈ pool) (fresh : ∀ c ∈ set.toList, c.Fresh) :
    ∀ c ∈ set.toList, ∃ stored, (m.converge owner set).state.object? c.key = some stored ∧
      c.Shows owner stored := by
  intro c hc
  obtain ⟨version, stored, present, became⟩ := succeeds.became c hc
  have mine := identity c (members c hc)
  refine ⟨stored, present, became.shows (fresh c hc) (by rw [mine]; rfl) (by rw [mine]; rfl) ?_⟩
  intro live found
  obtain ⟨earlier, he, key, shows⟩ := shown c.key live found
  refine ⟨earlier, shows, congrArg ChildKey.kind key, ?_, ?_⟩
  · rw [mine, identity earlier he]
  · intro stamps
    exact distinguished _ (List.mem_map_of_mem he) _ (List.mem_map_of_mem (members c hc)) stamps

theorem run_shown (rounds : List Round) (owners : ∀ r ∈ rounds, r.owner = owner)
    (members : ∀ r ∈ rounds, ∀ c ∈ r.set.toList, c ∈ pool) (hidden : m.hidden = [])
    (works : m.failing = []) (shown : Shown owner pool m) : Shown owner pool (Round.run m rounds) := by
  induction rounds generalizing m with
  | nil => exact shown
  | cons r rest ih =>
    have succeeds := converge_succeeds r.generated hidden works r.owner
    refine ih (fun q hq => owners q (.tail _ hq)) (fun q hq => members q (.tail _ hq))
      succeeds.hidden succeeds.failing ?_
    intro key live (found : (m.converge r.owner r.set).state.object? key = some live)
    by_cases mine : ∃ c ∈ r.set.toList, c.key = key
    · obtain ⟨c, hc, rfl⟩ := mine
      have own := owners r List.mem_cons_self
      rw [own] at succeeds found
      obtain ⟨stored, present, shows⟩ := converge_shows identity distinguished succeeds shown
        (members r List.mem_cons_self) (fun d hd => r.generated.fresh hd) c hc
      cases found.symm.trans present
      exact ⟨c, members r List.mem_cons_self c hc, rfl, shows⟩
    · rw [succeeds.others key fun c hc same => mine ⟨c, hc, same.symm⟩] at found
      exact shown key live found

end Pool

theorem shown_empty (owner : OwnerReference) (pool : List Child) : Shown owner pool Memory.empty := by
  intro key live found
  cases found.symm.trans (Table.get?_empty key)

section History

variable {rounds : List Round} {last : Round} (same : ∀ r ∈ rounds, r.SameParent last)

def Round.pool (rounds : List Round) : List Child := rounds.flatMap fun r => r.set.toList

theorem mem_pool {r : Round} (hr : r ∈ rounds) {c : Child} (hc : c ∈ r.set.toList) :
    c ∈ Round.pool rounds :=
  List.mem_flatMap.mpr ⟨r, hr, hc⟩

include same

theorem owner_eq_last {r : Round} (hr : r ∈ rounds) : r.owner = last.owner := by
  obtain ⟨kind, _, name, uid⟩ := same r hr
  exact Parent.owner?_congr last.owned r.owned kind name uid

theorem identity_eq_last : ∀ c ∈ Round.pool rounds, c.metadata =
    Labels.childMetadata last.parent.kind.label last.parent.ns last.parent.name := by
  intro c hc
  obtain ⟨r, hr, hc⟩ := List.mem_flatMap.mp hc
  obtain ⟨kind, ns, name, _⟩ := same r hr
  rw [r.generated.metadata c hc, kind, ns, name]

theorem key_mem_last {c : Child} (hc : c ∈ Round.pool rounds) :
    ∃ d ∈ last.set.toList, d.key = c.key := by
  obtain ⟨r, hr, hc⟩ := List.mem_flatMap.mp hc
  obtain ⟨kind, ns, name, _⟩ := same r hr
  have keys := last.generated.keys_eq r.generated kind ns name
  have member : c.key ∈ last.set.toList.map Child.key := keys ▸ List.mem_map_of_mem hc
  exact List.mem_map.mp member

theorem forms_eq : rounds.flatMap Round.forms =
    (Round.pool rounds).map fun c => (c.withOwner last.owner).toJson := by
  rw [Round.pool, List.map_flatMap]
  apply List.flatMap_congr
  intro r hr
  rw [Round.forms, owner_eq_last same hr]

end History

/-- Passes of one parent, whatever its specs, defaults and references were, leave what the last of them
alone leaves in an empty store, up to the essence of each object: nothing of an earlier form stays. -/
theorem converge_history_independent (history : List Round) (last : Round)
    (same : ∀ r ∈ history, r.SameParent last)
    (distinguished : Distinguished ((history ++ [last]).flatMap Round.forms)) :
    (∀ key, ((Round.run Memory.empty (history ++ [last])).object? key).map Child.essence =
      ((Round.run Memory.empty [last]).object? key).map Child.essence) ∧
    ∀ c ∈ last.set.toList, ∃ stored,
      (Round.run Memory.empty (history ++ [last])).object? c.key = some stored ∧
        stored.essence = (Child.created 0 (c.prepare last.owner)).essence := by
  have parents : ∀ r ∈ history ++ [last], r.SameParent last := by
    intro r hr
    rcases List.mem_append.mp hr with hr | hr
    · exact same r hr
    · cases List.mem_singleton.mp hr
      exact ⟨rfl, rfl, rfl, rfl⟩
  rw [forms_eq parents] at distinguished
  have identity := identity_eq_last parents
  have mine : ∀ c ∈ last.set.toList, c ∈ Round.pool (history ++ [last]) :=
    fun c hc => mem_pool (List.mem_append_right _ (List.mem_singleton_self last)) hc
  have fresh : ∀ c ∈ last.set.toList, c.Fresh := fun c hc => last.generated.fresh hc
  have before : Shown last.owner (Round.pool (history ++ [last])) (Round.run Memory.empty history) := by
    refine run_shown identity distinguished history ?_ ?_ rfl rfl (shown_empty _ _)
    · exact fun r hr => owner_eq_last parents (List.mem_append_left _ hr)
    · exact fun r hr c hc => mem_pool (List.mem_append_left _ hr) hc
  have succeeds := Round.succeeds_after history last
  have alone := Round.succeeds_after [] last
  have after := converge_shows identity distinguished succeeds before mine fresh
  have reference := converge_shows identity distinguished alone (shown_empty _ _) mine fresh
  have single : Round.run Memory.empty [last] =
      ((Round.run Memory.empty []).converge last.owner last.set).state :=
    Round.run_append Memory.empty [] last
  rw [Round.run_append, single]
  refine ⟨?_, after⟩
  intro key
  by_cases child : ∃ c ∈ last.set.toList, c.key = key
  · obtain ⟨c, hc, rfl⟩ := child
    obtain ⟨stored, present, shows⟩ := after c hc
    obtain ⟨stored', present', shows'⟩ := reference c hc
    rw [present, present', Option.map_some, Option.map_some, shows, shows']
  · have other : ∀ c ∈ last.set.toList, key ≠ c.key := fun c hc same => child ⟨c, hc, same.symm⟩
    have nothing : (Round.run Memory.empty history).object? key = none := by
      rw [Option.eq_none_iff_forall_not_mem]
      intro live found
      obtain ⟨c, hc, same, _⟩ := before key live found
      obtain ⟨d, hd, equal⟩ := key_mem_last parents hc
      exact child ⟨d, hd, equal.trans same⟩
    rw [succeeds.others key other, alone.others key other, nothing]
    rfl

def Round.ofKernelSpec (image : Option String) : Round where
  parent := .kernelSpec (KernelSpec.plain "team" "py" "1" image)
  defaults := { (default : Defaults) with kernelImage := "py" }
  resolver l := .error (.notFound l)
  owner := {
    apiVersion := apiVersion
    blockOwnerDeletion := none
    controller := some true
    kind := "JupyterKernelSpec"
    name := "py"
    uid := "1" }
  set := (KernelSpec.plain "team" "py" "1" image).children
    { (default : Defaults) with kernelImage := "py" }
  owned := rfl
  given := rfl

theorem named_image_is_forgotten :
    let named := Round.ofKernelSpec (some "r")
    let unnamed := Round.ofKernelSpec none
    (named.SameParent unnamed ∧ Distinguished (([named] ++ [unnamed]).flatMap Round.forms)) ∧
    ∀ key, ((Round.run Memory.empty ([named] ++ [unnamed])).object? key).map Child.essence =
      ((Round.run Memory.empty [unnamed]).object? key).map Child.essence := by
  intro named unnamed
  have same : named.SameParent unnamed := ⟨rfl, rfl, rfl, rfl⟩
  have stamps : (([named] ++ [unnamed]).flatMap Round.forms).map Fingerprint.ofJson =
      ["b834cfd744b02d87", "7582db0892c5a125"] := by
    rw [show Fingerprint.ofJson = _ from funext Fingerprint.ofJson_eq]
    decide +kernel
  have distinguished : Distinguished (([named] ++ [unnamed]).flatMap Round.forms) := by
    refine fun a ha b hb => List.inj_on_of_nodup_map ?_ ha hb
    rw [stamps]
    decide
  refine ⟨⟨same, distinguished⟩, ?_⟩
  refine (converge_history_independent [named] unnamed ?_ distinguished).1
  intro r hr
  cases List.mem_singleton.mp hr
  exact same

end Converge

end JupyterWorkloads
