import JupyterWorkloads.Proofs.Json.Merging
import JupyterWorkloads.Proofs.Json.RoundTrip
import JupyterWorkloads.Proofs.Pass.Status

/-! The patch that tells a status. Whatever a parent carried before, it carries exactly the told status
afterwards, and nothing else of it changed. A patch that is not sent would have changed nothing. -/
namespace JupyterWorkloads

open Json

namespace WorkloadStatus

def memberNames : List String :=
  ["availableReplicas", "message", "observedGeneration", "readyReplicas", "replicas",
    "unavailableReplicas", "updatedReplicas"]

/-- The status of a parent as it is read; null counts as nothing. -/
def carried? (parent : Json) : Option (Option WorkloadStatus) :=
  parent.fields?.bind fun fields => Record.optional? fields "status"

theorem scalar_optional {α : Type} [Codec α] (scalar : ∀ a : α, (encode a).IsScalar) (name : String)
    (value : Option α) : ∀ v, (Member.optional name value).value = some v → v.IsScalar := by
  intro v hv
  obtain ⟨a, _, rfl⟩ := Option.map_eq_some_iff.mp hv
  exact scalar a

theorem exists_members (s : WorkloadStatus) : ∃ members, encode s = .record members ∧
    s.patch = .obj [("status", .obj (Member.patching members))] ∧ Member.InOrder members ∧
      members.map Member.name = memberNames ∧
        ∀ m ∈ members, ∀ v, m.value = some v → v.IsScalar := by
  refine ⟨_, rfl, ?_, Member.inOrder_of_names (by simp +decide), rfl, ?_⟩
  · by_cases silent : s.message.isEmpty <;> simp [patch, Member.patching, Member.optional, silent, encode]
  · have narrow : ∀ n : Int32, (encode n).IsScalar := fun _ => trivial
    have wide : ∀ n : Int64, (encode n).IsScalar := fun _ => trivial
    have message : ∀ v, (if s.message.isEmpty then none else some (encode s.message)) = some v →
        v.IsScalar := by
      intro v hv
      obtain ⟨_, hv⟩ := Option.ite_none_left_eq_some.mp hv
      cases hv
      trivial
    simp only [List.forall_mem_cons]
    exact ⟨scalar_optional narrow _ _, message, scalar_optional wide _ _, scalar_optional narrow _ _,
      scalar_optional narrow _ _, scalar_optional narrow _ _, scalar_optional narrow _ _, by simp⟩

/-- Reading a status looks at nothing but its members. -/
theorem decode_congr {fields others : Fields} (order : Rows.Increasing fields)
    (order' : Rows.Increasing others)
    (same : ∀ name ∈ memberNames, Rows.get? name others = Rows.get? name fields) :
    (decode (.obj others) : Option WorkloadStatus) = decode (.obj fields) := by
  have read : ∀ name ∈ memberNames, Record.occurrences others name = Record.occurrences fields name :=
    fun name known => Record.occurrences_congr order order' (same name known)
  simp only [memberNames, List.forall_mem_cons] at read
  obtain ⟨available, message, generation, ready, replicas, unavailable, updated, _⟩ := read
  simp only [decode, Record.declared?_obj order, Record.declared?_obj order', Record.optional?,
    Record.defaulted?, Record.read?, available, message, generation, ready, replicas, unavailable,
    updated, Option.bind_eq_bind, Option.bind_some]

theorem increasing_fields? {v : Json} (sorted : v.Sorted) : Rows.Increasing (v.fields?.getD []) := by
  cases v with
  | obj fields => exact ((sorted_obj fields).mp sorted).1
  | _ => exact .nil

/-- The patch puts an object in the place of the status, from which the told one is read. -/
theorem exists_patched (s : WorkloadStatus) {fields : Fields} (sorted : (obj fields).Sorted) :
    ∃ status, mergePatch (.obj fields) s.patch = .obj (Rows.insert "status" (.obj status) fields) ∧
      (decode (.obj status) : Option WorkloadStatus) = some s := by
  obtain ⟨members, written, patch, order, names, scalar⟩ := s.exists_members
  let old := ((Rows.get? "status" fields).getD .null).fields?.getD []
  refine ⟨mergeFields old (Member.patching members), ?_, ?_⟩
  · rw [patch, mergePatch, mergeFields_cons, if_neg (by simp), mergePatch]
    simp [mergeFields, fields?, old]
  · have old_order : Rows.Increasing old := by
      cases found : Rows.get? "status" fields with
      | none =>
        simp only [old, found]
        exact .nil
      | some v =>
        simp only [old, found]
        exact increasing_fields? (((sorted_obj fields).mp sorted).2 _ (Rows.mem_of_get? found))
    rw [decode_congr (Member.rows_increasing order) (increasing_mergeFields old_order _) ?_]
    · exact (congrArg decode written).symm.trans (LawfulCodec.decode_encode s)
    · intro name known
      rw [← names] at known
      obtain ⟨m, hm, rfl⟩ := List.mem_map.mp known
      rw [Member.get?_patched old_order order hm (scalar m hm), Member.get?_rows_of_mem order hm]

theorem carried?_insert {fields : Fields} {v : Json} {s : WorkloadStatus} (order : Rows.Increasing fields)
    (solid : v ≠ .null) (reads : decode v = some s) :
    carried? (.obj (Rows.insert "status" v fields)) = some (some s) := by
  refine Record.optional?_eq_some (order.insert "status" v) ?_ solid reads
  rw [Rows.get?_insert, if_pos rfl]

end WorkloadStatus

namespace Parent

section Members

variable {α : Type} [Codec α] {make : ObjectMeta → α → Option WorkloadStatus → Parent}

/-- How a parent that carries a status is read from its three members. -/
def ofMembers? (make : ObjectMeta → α → Option WorkloadStatus → Parent) (fields : Fields) :
    Option Parent := do
  let metadata ← Record.mandatory? fields "metadata"
  let spec ← Record.mandatory? fields "spec"
  let status ← Record.optional? fields "status"
  return make metadata spec status

structure Makes (make : ObjectMeta → α → Option WorkloadStatus → Parent) : Prop where
  status : ∀ metadata spec status, (make metadata spec status).status? = status
  other : ∀ metadata spec status other,
    (make metadata spec status).withStatus other = make metadata spec other

theorem Makes.insert (makes : Makes make) {fields : Fields} (order : Rows.Increasing fields) {p : Parent}
    (h : ofMembers? make fields = some p) {v : Json} {s : WorkloadStatus} (solid : v ≠ .null)
    (reads : decode v = some s) : WorkloadStatus.carried? (.obj fields) = some p.status? ∧
      ofMembers? make (Rows.insert "status" v fields) = some (p.withStatus (some s)) := by
  simp only [ofMembers?, Option.bind_eq_bind, Option.bind_eq_some_iff] at h
  obtain ⟨metadata, hm, spec, hs, status, ht, made⟩ := h
  cases made
  rw [makes.status, makes.other]
  have told : Record.optional? (Rows.insert "status" v fields) "status" = some (some s) :=
    WorkloadStatus.carried?_insert order solid reads
  refine ⟨ht, ?_⟩
  simp only [ofMembers?, Record.mandatory?_insert order (show "status" ≠ "metadata" by decide), hm,
    Record.mandatory?_insert order (show "status" ≠ "spec" by decide), hs, told]
  rfl

end Members

theorem exists_makes {kind : ParentKind} (carries : kind.hasStatus = true) :
    ∃ (α : Type) (_ : Codec α) (make : ObjectMeta → α → Option WorkloadStatus → Parent), Makes make ∧
      ∀ fields, Rows.Increasing fields → ofJson? kind (.obj fields) = ofMembers? make fields := by
  cases kind
  case kernelSpec => cases carries
  case' gateway =>
    refine ⟨Gateway.Spec, inferInstance, fun m spec status => .gateway ⟨m, spec, status⟩,
      ⟨fun _ _ _ => rfl, fun _ _ _ _ => rfl⟩, fun fields order => ?_⟩
  case' kernel =>
    refine ⟨Kernel.Spec, inferInstance, fun m spec status => .kernel ⟨m, spec, status⟩,
      ⟨fun _ _ _ => rfl, fun _ _ _ _ => rfl⟩, fun fields order => ?_⟩
  case' notebook =>
    refine ⟨Notebook.Spec, inferInstance, fun m spec status => .notebook ⟨m, spec, status⟩,
      ⟨fun _ _ _ => rfl, fun _ _ _ _ => rfl⟩, fun fields order => ?_⟩
  all_goals
    simp only [ofJson?, decode, Record.declared?_obj order, ofMembers?, Option.bind_eq_bind,
      Option.bind_some, Option.pure_def, Option.map_bind, Function.comp_def, Option.map_some]

theorem ofJson?_insert {kind : ParentKind} (carries : kind.hasStatus = true) {fields : Fields}
    (order : Rows.Increasing fields) {p : Parent} (h : ofJson? kind (.obj fields) = some p) {v : Json}
    {s : WorkloadStatus} (solid : v ≠ .null) (reads : decode v = some s) :
    WorkloadStatus.carried? (.obj fields) = some p.status? ∧
      ofJson? kind (.obj (Rows.insert "status" v fields)) = some (p.withStatus (some s)) := by
  obtain ⟨_, _, make, makes, read⟩ := exists_makes carries
  rw [read fields order] at h
  rw [read _ (order.insert "status" v)]
  exact makes.insert order h solid reads

end Parent

namespace WorkloadStatus

theorem changed?_eq_none {current : Option WorkloadStatus} {next : WorkloadStatus} :
    changed? current next = none ↔ current.getD default = next := by
  simp [changed?]

/-- From a parent that was patched with a status exactly that status is read, whatever stood there before,
and the parent is otherwise as it was. What is told of a deployment are its counts. They are not told exactly
when the status that is read, an absent one as the empty one, says them already, which is when the patch would
change nothing. -/
theorem patched_status_reads_back {fields : Fields} (sorted : (obj fields).Sorted) (s : WorkloadStatus) :
    carried? ((obj fields).mergePatch s.patch) = some (some s) ∧
    (∀ kind p, kind.hasStatus = true → Parent.ofJson? kind (.obj fields) = some p →
      carried? (.obj fields) = some p.status? ∧
        Parent.ofJson? kind ((obj fields).mergePatch s.patch) = some (p.withStatus (some s))) ∧
    ∀ current, carried? (.obj fields) = some current → ∀ o, (ofDeployment o).Mirrors o ∧
      (project? current o = none ↔ current.getD default = ofDeployment o) ∧
      (project? current o = none ↔
        (carried? ((obj fields).mergePatch (ofDeployment o).patch)).map (·.getD default) =
          (carried? (.obj fields)).map (·.getD default)) := by
  have order := ((sorted_obj fields).mp sorted).1
  have told : ∀ t : WorkloadStatus, carried? ((obj fields).mergePatch t.patch) = some (some t) := by
    intro t
    obtain ⟨status, patched, reads⟩ := t.exists_patched sorted
    rw [patched]
    exact carried?_insert order nofun reads
  refine ⟨told s, ?_, ?_⟩
  · intro kind p carries given
    obtain ⟨status, patched, reads⟩ := s.exists_patched sorted
    rw [patched]
    exact Parent.ofJson?_insert carries order given nofun reads
  · intro current read o
    have same : project? current o = none ↔ current.getD default = ofDeployment o := changed?_eq_none
    refine ⟨ofDeployment_mirrors o, same, ?_⟩
    rw [same, told, read]
    simp [eq_comm]

theorem stale_message_is_removed :
    let metadata := Json.obj [("name", .str "lab"), ("namespace", .str "team"), ("uid", .str "1")]
    let stale := Json.obj
      [("message", .str "no kernels"), ("phase", .str "Failed"), ("readyReplicas", .int 3)]
    let fields := [("metadata", metadata), ("spec", .obj []), ("status", stale)]
    let s := { (default : WorkloadStatus) with replicas := some 1 }
    let patched := (Json.obj fields).mergePatch s.patch
    (∃ p current, Parent.ofJson? .gateway (.obj fields) = some p ∧ p.status? = some current ∧
      current.message = "no kernels" ∧ Parent.ofJson? .gateway patched = some (p.withStatus (some s))) ∧
    patched = .obj [("metadata", metadata), ("spec", .obj []),
      ("status", .obj [("phase", .str "Failed"), ("replicas", .int 1)])] ∧
    carried? patched = some (some s) := by
  intro metadata stale fields s patched
  have order : ∀ {a b c : Json} {x y z : String}, Member.namesInOrder [x, y, z] = true →
      Rows.Increasing [(x, a), (y, b), (z, c)] :=
    fun names => List.pairwise_map.mp (of_decide_eq_true names)
  have sorted : (Json.obj fields).Sorted :=
    ⟨order (by decide), ⟨order (by decide), trivial, trivial, trivial, trivial⟩, ⟨.nil, trivial⟩,
      ⟨order (by decide), trivial, trivial, trivial, trivial⟩, trivial⟩
  obtain ⟨told, parents, _⟩ := patched_status_reads_back sorted s
  exact ⟨⟨_, _, rfl, rfl, rfl, (parents .gateway _ rfl rfl).2⟩, rfl, told⟩

end WorkloadStatus

end JupyterWorkloads
