import Mathlib.Data.List.Forall2
import JupyterWorkloads.Drift
import JupyterWorkloads.Proofs.Json.Lawful

/-! What contains what. A value with its keys in order contains itself, an object contains another
when it answers each of its members, and a record contains another of the same names when its members
cover the other's one by one. -/
namespace JupyterWorkloads.Drift

/-- The live members hold what one desired member says: a value that contains it, or nothing where it
is blank. -/
def Answers (live : Json.Fields) (row : String × Json) : Prop :=
  match Rows.get? row.1 live with
  | some value => contains value row.2 = true
  | none => isBlank row.2 = true

theorem containsFields_iff (live desired : Json.Fields) :
    containsFields live desired = true ↔ ∀ row ∈ desired, Answers live row := by
  induction desired with
  | nil => simp [containsFields]
  | cons row rest ih =>
    obtain ⟨name, v⟩ := row
    rw [containsFields, Bool.and_eq_true, ih, List.forall_mem_cons]
    refine and_congr ?_ Iff.rfl
    unfold Answers
    cases Rows.get? name live <;> exact Iff.rfl

theorem contains_fewer {live more fewer : Json.Fields} (sub : ∀ row ∈ fewer, row ∈ more)
    (h : contains (.obj live) (.obj more) = true) : contains (.obj live) (.obj fewer) = true := by
  rw [contains, containsFields_iff] at h ⊢
  intro row hr
  exact h row (sub row hr)

theorem numEq_self (x : Binary64) : x.numEq x = true := by
  simp [Binary64.numEq]

mutual

theorem contains_self : ∀ v : Json, v.Sorted → contains v v = true
  | .null, _ => by simp [contains]
  | .bool b, _ => by simp [contains, sameScalar]
  | .int n, _ => by simp [contains, sameScalar]
  | .float x, _ => by simp [contains, sameScalar, numEq_self]
  | .str s, _ => by simp [contains, sameScalar]
  | .arr items, h => by
    rw [contains]
    exact containsItems_self items h
  | .obj fields, h => by
    rw [contains]
    exact containsFields_sub fields fields h.1 (fun _ hr => hr) h.2

theorem containsItems_self : ∀ items : List Json, Json.SortedItems items →
    containsItems items items = true
  | [], _ => by simp [containsItems]
  | item :: rest, h => by
    rw [containsItems, contains_self item h.1, containsItems_self rest h.2]
    rfl

/-- The recursion runs through the members while the object they are looked up in stays. -/
theorem containsFields_sub : ∀ live fields : Json.Fields, Rows.Increasing live →
    (∀ row ∈ fields, row ∈ live) → Json.SortedFields fields → containsFields live fields = true
  | _, [], _, _, _ => by simp [containsFields]
  | live, (name, v) :: rest, order, sub, h => by
    have here : Rows.get? name live = some v := Rows.get?_of_mem order (sub _ List.mem_cons_self)
    have later := containsFields_sub live rest order (fun row hr => sub row (.tail _ hr)) h.2
    rw [containsFields, here, later, Bool.and_true]
    exact contains_self v h.1

end

theorem contains_encode {α : Type} [Codec α] [PlainCodec α] (a : α) :
    contains (encode a) (encode a) = true :=
  contains_self _ (PlainCodec.plain a).sorted

def Covers (live desired : Member) : Prop :=
  live.name = desired.name ∧
    ∀ v, desired.value = some v → ∃ w, live.value = some w ∧ contains w v = true

theorem exists_covering {live desired : List Member} (h : List.Forall₂ Covers live desired)
    {d : Member} (hd : d ∈ desired) : ∃ l ∈ live, Covers l d := by
  induction h with
  | nil => cases hd
  | cons first _ ih =>
    rcases List.mem_cons.mp hd with rfl | hd
    · exact ⟨_, List.mem_cons_self, first⟩
    · obtain ⟨l, hl, covers⟩ := ih hd
      exact ⟨l, List.mem_cons_of_mem _ hl, covers⟩

theorem contains_record {live desired : List Member} (order : Member.InOrder live)
    (h : List.Forall₂ Covers live desired) :
    contains (.record live) (.record desired) = true := by
  rw [Json.record, Json.record, contains, containsFields_iff]
  intro row hr
  obtain ⟨d, hd, name, value⟩ := Member.mem_rows hr
  obtain ⟨l, hl, same, covers⟩ := exists_covering h hd
  obtain ⟨w, present, holds⟩ := covers row.2 value
  have found : Rows.get? row.1 (Member.rows live) = some w := by
    rw [← name, ← same, Member.get?_rows_of_mem order hl, present]
  simpa only [Answers, found] using holds

theorem contains_member {live desired : List Member} (order : Member.InOrder live)
    (h : contains (.record live) (.record desired) = true) {l d : Member} (hl : l ∈ live)
    (hd : d ∈ desired) (same : l.name = d.name) {w v : Json} (present : l.value = some w)
    (set : d.value = some v) : contains w v = true := by
  rw [Json.record, Json.record, contains, containsFields_iff] at h
  have answer := h (d.name, v) (Member.row_mem hd set)
  have found : Rows.get? d.name (Member.rows live) = some w := by
    rw [← same, Member.get?_rows_of_mem order hl, present]
  simpa only [Answers, found] using answer

section Members

variable {α : Type} [Codec α] (name : String)

theorem covers_unset (live : Option α) : Covers (.optional name live) (.optional name (none : Option α)) :=
  ⟨rfl, nofun⟩

theorem covers_contained {live desired : α} (h : contains (encode live) (encode desired) = true) :
    Covers (.required name live) (.required name desired) :=
  ⟨rfl, fun _ hv => ⟨encode live, rfl, Option.some.inj hv ▸ h⟩⟩

variable [PlainCodec α]

theorem covers_required (a : α) : Covers (.required name a) (.required name a) :=
  covers_contained name (contains_encode a)

theorem covers_optional (a : Option α) : Covers (.optional name a) (.optional name a) := by
  cases a with
  | none => exact covers_unset name none
  | some a => exact covers_required name a

end Members

theorem covers_table (name : String) {live desired : StringTable}
    (h : ∀ key v, desired.get? key = some v → live.get? key = some v) :
    Covers (.optional name (some live)) (.optional name (some desired)) := by
  refine covers_contained name ?_
  show contains (.obj _) (.obj _) = true
  rw [contains, containsFields_iff]
  intro row hr
  obtain ⟨⟨key, v⟩, hm, rfl⟩ := List.mem_map.mp hr
  have found := h key v ((Table.get?_eq_some_iff desired key v).mpr hm)
  simp only [Answers, get?_textRows, show Rows.get? key live.rows = some v from found]
  simp [contains, sameScalar]

end JupyterWorkloads.Drift
