import JupyterWorkloads.Json.MergePatch
import JupyterWorkloads.Proofs.Json.Path
import JupyterWorkloads.Proofs.Json.Record

/-! What is found in an object after a merge patch, and what a record reads from an object in which more
may stand than was written for it. Both are said by looking up members one name at a time. -/
namespace JupyterWorkloads

namespace Json

def merged (old : Option Json) (value : Json) : Option Json :=
  if value = .null then none else some (mergePatch (old.getD .null) value)

theorem mergeFields_cons (fields : Fields) (name : String) (value : Json) (rest : Fields) :
    mergeFields fields ((name, value) :: rest) =
      mergeFields (if value = .null then Rows.erase name fields
        else Rows.insert name (mergePatch ((Rows.get? name fields).getD .null) value) fields) rest := by
  cases value <;> simp [mergeFields]

theorem increasing_mergeFields {fields : Fields} (order : Rows.Increasing fields) (patch : Fields) :
    Rows.Increasing (mergeFields fields patch) := by
  induction patch generalizing fields with
  | nil => simpa [mergeFields] using order
  | cons row rest ih =>
    rw [mergeFields_cons]
    apply ih
    split
    · exact order.erase row.1
    · exact order.insert row.1 _

/-- A patch decides the members it names; of the others it knows nothing. -/
theorem get?_mergeFields {fields patch : Fields} (order : Rows.Increasing fields)
    (names : Rows.Increasing patch) (key : String) :
    Rows.get? key (mergeFields fields patch) =
      match Rows.get? key patch with
      | none => Rows.get? key fields
      | some value => merged (Rows.get? key fields) value := by
  induction patch generalizing fields with
  | nil => simp [mergeFields]
  | cons row rest ih =>
    obtain ⟨name, value⟩ := row
    have parts := List.pairwise_cons.mp names
    have next : Rows.Increasing (if value = .null then Rows.erase name fields
        else Rows.insert name (mergePatch ((Rows.get? name fields).getD .null) value) fields) := by
      split
      · exact order.erase name
      · exact order.insert name _
    rw [mergeFields_cons, ih next parts.2, Rows.get?_cons]
    by_cases hit : name = key
    · subst hit
      have later : Rows.get? name rest = none := Rows.get?_eq_none_of_forall fun row hr same =>
        KeyOrder.irrefl _ (same ▸ parts.1 row hr)
      rw [later, if_pos rfl]
      by_cases null : value = .null
      · simp [null, merged, Rows.get?_erase order]
      · simp [null, merged, Rows.get?_insert]
    · have same : Rows.get? key (if value = .null then Rows.erase name fields
          else Rows.insert name (mergePatch ((Rows.get? name fields).getD .null) value) fields) =
            Rows.get? key fields := by
        split
        · rw [Rows.get?_erase order, if_neg hit]
        · rw [Rows.get?_insert, if_neg hit]
      rw [same, if_neg hit]

theorem mergePatch_scalar {v : Json} (scalar : v.IsScalar) (target : Json) : mergePatch target v = v := by
  cases v with
  | obj _ => exact scalar.elim
  | _ => simp [mergePatch]

end Json

namespace Member

/-- The patch that gives a record its members: one that is not written is removed. -/
def patching (members : List Member) : Json.Fields :=
  members.map fun m => (m.name, m.value.getD .null)

variable {members : List Member}

theorem increasing_patching (order : InOrder members) : Rows.Increasing (patching members) :=
  List.pairwise_map.mpr order

/-- After the patch an object has the members of the record, whatever else it has. -/
theorem get?_patched {fields : Json.Fields} (order : Rows.Increasing fields) (names : InOrder members)
    {m : Member} (hm : m ∈ members) (scalar : ∀ v, m.value = some v → v.IsScalar) :
    Rows.get? m.name (Json.mergeFields fields (patching members)) = m.value := by
  have named : (m.name, m.value.getD .null) ∈ patching members := List.mem_map_of_mem hm
  rw [Json.get?_mergeFields order (increasing_patching names),
    Rows.get?_of_mem (increasing_patching names) named]
  cases given : m.value with
  | none => simp [Json.merged]
  | some v =>
    have solid : v ≠ .null := by
      rintro rfl
      exact scalar _ given
    simp [Json.merged, solid, Json.mergePatch_scalar (scalar v given)]

end Member

namespace Record

variable {α : Type} [Codec α] {fields : Json.Fields} {name : String}

theorem occurrences_of_increasing (order : Rows.Increasing fields) (name : String) :
    occurrences fields name = (Rows.get? name fields).toList := by
  induction fields with
  | nil => rfl
  | cons row rest ih =>
    obtain ⟨key, value⟩ := row
    have parts := List.pairwise_cons.mp order
    have tail := ih parts.2
    rw [Rows.get?_cons]
    by_cases hit : key = name
    · have later : Rows.get? name rest = none := Rows.get?_eq_none_of_forall fun row hr same =>
        KeyOrder.irrefl _ (hit ▸ same ▸ parts.1 row hr)
      rw [later] at tail
      simp only [occurrences] at tail ⊢
      simp [hit, tail]
    · simp only [occurrences] at tail ⊢
      simp [hit, tail]

theorem declared?_obj (order : Rows.Increasing fields) (least : Nat) (names : List String) :
    declared? least names (.obj fields) = some fields := by
  have once : names.all (fun name => (occurrences fields name).length ≤ 1) = true := by
    simp only [occurrences_of_increasing order, List.all_eq_true, decide_eq_true_eq]
    intro name _
    cases Rows.get? name fields <;> simp
  rw [declared?, if_pos once]

theorem occurrences_congr {others : Json.Fields} (order : Rows.Increasing fields)
    (order' : Rows.Increasing others) (same : Rows.get? name others = Rows.get? name fields) :
    occurrences others name = occurrences fields name := by
  rw [occurrences_of_increasing order', same, occurrences_of_increasing order]

theorem mandatory?_insert (order : Rows.Increasing fields) {key : String} (other : key ≠ name) (v : Json) :
    (mandatory? (Rows.insert key v fields) name : Option α) = mandatory? fields name := by
  have same : Rows.get? name (Rows.insert key v fields) = Rows.get? name fields := by
    rw [Rows.get?_insert, if_neg other]
  rw [mandatory?, mandatory?, read?, read?, occurrences_congr order (order.insert key v) same]

theorem optional?_eq_some {v : Json} {a : α} (order : Rows.Increasing fields)
    (present : Rows.get? name fields = some v) (solid : v ≠ .null) (reads : decode v = some a) :
    optional? fields name = some (some a) := by
  rw [optional?, read?, occurrences_of_increasing order, present]
  cases v <;> simp_all [nullable?]

end Record

end JupyterWorkloads
