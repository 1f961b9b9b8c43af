import JupyterWorkloads.Json.Codec

/-! Written records. The rows of a record are in key order when its members are named in order, a
member is read back from the row that was written for it, and setting or removing a member changes the
one row. What is written of plain members is plain: it has no floats, its integers fit in a word, and the
keys of each of its objects are in order. -/
namespace JupyterWorkloads

theorem Rows.insert_of_below {κ ν : Type} [DecidableEq κ] [LT κ] [DecidableLT κ] [KeyOrder κ]
    {key : κ} {value : ν} {rows : List (κ × ν)} (h : ∀ row ∈ rows, key < row.1) :
    Rows.insert key value rows = (key, value) :: rows := by
  cases rows with
  | nil => rfl
  | cons row rest =>
    have below := h row List.mem_cons_self
    have above : ¬ row.1 < key := fun lt => KeyOrder.irrefl _ (KeyOrder.trans below lt)
    have other : row.1 ≠ key := fun same => KeyOrder.irrefl _ (same ▸ below)
    simp only [Rows.insert, if_neg above, if_neg other]

namespace Member

variable {α : Type} [Codec α]

@[simp] theorem name_optional (name : String) (value : Option α) :
    (optional name value).name = name := by
  simp only [optional]

@[simp] theorem name_required (name : String) (value : α) : (required name value).name = name := by
  simp only [required]

theorem required_eq_optional (name : String) (value : α) :
    required name value = optional name (some value) := rfl

@[simp] theorem rows_absent (name : String) (rest : List Member) :
    rows (⟨name, none⟩ :: rest) = rows rest := rfl

@[simp] theorem rows_present (name : String) (v : Json) (rest : List Member) :
    rows (⟨name, some v⟩ :: rest) = (name, v) :: rows rest := rfl

theorem mem_rows {row : String × Json} {members : List Member} (h : row ∈ rows members) :
    ∃ m ∈ members, m.name = row.1 ∧ m.value = some row.2 := by
  induction members with
  | nil => cases h
  | cons m rest ih =>
    obtain ⟨name, value⟩ := m
    cases value with
    | none =>
      obtain ⟨m, hm, hit⟩ := ih h
      exact ⟨m, List.mem_cons_of_mem _ hm, hit⟩
    | some v =>
      rcases List.mem_cons.mp h with rfl | h
      · exact ⟨⟨name, some v⟩, List.mem_cons_self, rfl, rfl⟩
      · obtain ⟨m, hm, hit⟩ := ih h
        exact ⟨m, List.mem_cons_of_mem _ hm, hit⟩

theorem row_mem {m : Member} {v : Json} {members : List Member} (hm : m ∈ members)
    (present : m.value = some v) : (m.name, v) ∈ rows members := by
  induction members with
  | nil => cases hm
  | cons head rest ih =>
    obtain ⟨name, value⟩ := head
    rcases List.mem_cons.mp hm with rfl | later
    · cases present
      exact List.mem_cons_self
    · cases value with
      | none => exact ih later
      | some w => exact List.mem_cons_of_mem _ (ih later)

def InOrder (members : List Member) : Prop := members.Pairwise fun a b => a.name < b.name

/-- Whether the names are in order. Of literal names this is found by evaluation. -/
def namesInOrder (names : List String) : Bool := decide (names.Pairwise fun a b => a < b)

theorem inOrder_of_names {members : List Member} (h : namesInOrder (members.map name) = true) :
    InOrder members :=
  List.pairwise_map.mp (of_decide_eq_true h)

theorem InOrder.head_ne {m : Member} {rest : List Member} (h : InOrder (m :: rest)) :
    ∀ other ∈ rest, other.name ≠ m.name := by
  intro other ho same
  exact KeyOrder.irrefl _ (same ▸ (List.pairwise_cons.mp h).1 other ho)

theorem rows_increasing {members : List Member} (h : InOrder members) :
    Rows.Increasing (rows members) := by
  induction members with
  | nil => exact List.Pairwise.nil
  | cons m rest ih =>
    have parts := List.pairwise_cons.mp h
    obtain ⟨name, value⟩ := m
    cases value with
    | none => exact ih parts.2
    | some v =>
      refine List.pairwise_cons.mpr ⟨fun row hr => ?_, ih parts.2⟩
      obtain ⟨m, hm, hn, _⟩ := mem_rows hr
      exact hn ▸ parts.1 m hm

theorem get?_rows_eq_none {members : List Member} {name : String} (h : ∀ m ∈ members, m.name ≠ name) :
    Rows.get? name (rows members) = none := by
  apply Rows.get?_eq_none_of_forall
  intro row hr
  obtain ⟨m, hm, hn, _⟩ := mem_rows hr
  exact hn ▸ h m hm

theorem get?_rows_of_mem {members : List Member} (h : InOrder members) {m : Member} (hm : m ∈ members) :
    Rows.get? m.name (rows members) = m.value := by
  induction members with
  | nil => cases hm
  | cons head rest ih =>
    rw [get?_rows_cons]
    rcases List.mem_cons.mp hm with rfl | hm
    · simp [get?_rows_eq_none h.head_ne]
    · rw [if_neg (h.head_ne m hm).symm, ih (List.pairwise_cons.mp h).2 hm]

def replace (name : String) (value : Option Json) (members : List Member) : List Member :=
  members.map fun m => if m.name = name then ⟨name, value⟩ else m

theorem replace_of_absent (name : String) (value : Option Json) {members : List Member}
    (h : ∀ m ∈ members, m.name ≠ name) : replace name value members = members := by
  induction members with
  | nil => rfl
  | cons m rest ih =>
    simp only [replace, List.map_cons, if_neg (h m List.mem_cons_self)]
    exact congrArg (m :: ·) (ih fun m hm => h m (List.mem_cons_of_mem _ hm))

theorem replace_head {m : Member} {rest : List Member} (h : InOrder (m :: rest))
    (value : Option Json) : replace m.name value (m :: rest) = ⟨m.name, value⟩ :: rest := by
  simpa [replace] using replace_of_absent m.name value h.head_ne

theorem erase_rows {members : List Member} (h : InOrder members) (name : String) :
    Rows.erase name (rows members) = rows (replace name none members) := by
  induction members with
  | nil => rfl
  | cons m rest ih =>
    have tail := ih (List.pairwise_cons.mp h).2
    by_cases hit : m.name = name
    · subst hit
      rw [replace_of_absent m.name none h.head_ne] at tail
      rw [replace_head h]
      obtain ⟨n, value⟩ := m
      cases value with
      | none => exact tail
      | some v => simp [Rows.erase]
    · obtain ⟨n, value⟩ := m
      cases value with
      | none => simpa [replace, hit] using tail
      | some v => simpa [replace, hit, Rows.erase] using tail

theorem insert_rows {members : List Member} (h : InOrder members) {name : String} (v : Json)
    (known : ∃ m ∈ members, m.name = name) :
    Rows.insert name v (rows members) = rows (replace name (some v) members) := by
  induction members with
  | nil => simp at known
  | cons m rest ih =>
    have parts := List.pairwise_cons.mp h
    by_cases hit : m.name = name
    · subst hit
      rw [replace_head h]
      obtain ⟨n, value⟩ := m
      cases value with
      | none =>
        refine Rows.insert_of_below fun row (hr : row ∈ rows rest) => ?_
        obtain ⟨other, ho, hn, _⟩ := mem_rows hr
        exact hn ▸ parts.1 other ho
      | some w => simp [Rows.insert]
    · have later : ∃ other ∈ rest, other.name = name := by
        obtain ⟨other, ho, hn⟩ := known
        rcases List.mem_cons.mp ho with rfl | ho
        · exact absurd hn hit
        · exact ⟨other, ho, hn⟩
      have below : m.name < name := by
        obtain ⟨other, ho, hn⟩ := later
        exact hn ▸ parts.1 other ho
      have tail := ih parts.2 later
      obtain ⟨n, value⟩ := m
      cases value with
      | none => simpa [replace, hit] using tail
      | some w => simpa [replace, hit, Rows.insert, below] using tail

end Member

namespace Record

variable {α : Type} [Codec α]

@[simp] theorem occurrences_nil (name : String) : occurrences (Member.rows []) name = [] := by
  simp only [Member.rows, occurrences, List.filter_nil, List.map_nil]

@[simp] theorem occurrences_cons (m : Member) (rest : List Member) (name : String) :
    occurrences (Member.rows (m :: rest)) name =
      if m.name = name then m.value.toList ++ occurrences (Member.rows rest) name
      else occurrences (Member.rows rest) name := by
  obtain ⟨n, value⟩ := m
  cases value with
  | none => simp
  | some v => by_cases hit : n = name <;> simp [occurrences, hit]

theorem occurrences_eq_nil {members : List Member} {name : String} (h : ∀ m ∈ members, m.name ≠ name) :
    occurrences (Member.rows members) name = [] := by
  induction members with
  | nil => exact occurrences_nil name
  | cons m rest ih =>
    rw [occurrences_cons, if_neg (h m List.mem_cons_self)]
    exact ih fun m hm => h m (List.mem_cons_of_mem _ hm)

theorem occurrences_of_mem {members : List Member} (distinct : (members.map Member.name).Nodup) {m : Member}
    (hm : m ∈ members) : occurrences (Member.rows members) m.name = m.value.toList := by
  induction members with
  | nil => cases hm
  | cons head rest ih =>
    have parts := List.nodup_cons.mp distinct
    rw [occurrences_cons]
    rcases List.mem_cons.mp hm with rfl | later
    · have others : occurrences (Member.rows rest) m.name = [] :=
        occurrences_eq_nil fun other ho same => parts.1 (same ▸ List.mem_map_of_mem ho)
      rw [if_pos rfl, others, List.append_nil]
    · have apart : head.name ≠ m.name := fun same => parts.1 (same ▸ List.mem_map_of_mem later)
      rw [if_neg apart, ih parts.2 later]

theorem length_occurrences_le {members : List Member} (order : Member.InOrder members) (name : String) :
    (occurrences (Member.rows members) name).length ≤ 1 := by
  induction members with
  | nil => simp
  | cons m rest ih =>
    rw [occurrences_cons]
    split
    · subst name
      have once : m.value.toList.length ≤ 1 := by cases m.value <;> simp
      rw [occurrences_eq_nil order.head_ne, List.append_nil]
      exact once
    · exact ih (List.pairwise_cons.mp order).2

theorem nullable?_encode [LawfulCodec α] (a : α) :
    nullable? decode (encode a) = some (some a) := by
  have back := LawfulCodec.decode_encode a
  have written := LawfulCodec.encode_ne_null a
  cases h : encode a <;> simp_all [nullable?]

@[simp] theorem optional?_rows [LawfulCodec α] {name : String} {value : Option α}
    {rest : List Member} (once : occurrences (Member.rows rest) name = []) :
    optional? (Member.rows (.optional name value :: rest)) name = some value := by
  unfold optional? read?
  rw [occurrences_cons, if_pos (Member.name_optional name value), once]
  cases value with
  | none => rfl
  | some a => simp [Member.optional, nullable?_encode]

@[simp] theorem required?_rows [LawfulCodec α] [Inhabited α] {name : String} {value : α}
    {rest : List Member} (once : occurrences (Member.rows rest) name = []) :
    required? (Member.rows (.required name value :: rest)) name = some value := by
  rw [Member.required_eq_optional, required?, optional?_rows once]
  rfl

@[simp] theorem optional?_skip {m : Member} {name : String} (rest : List Member)
    (other : m.name ≠ name) :
    (optional? (Member.rows (m :: rest)) name : Option (Option α)) =
      optional? (Member.rows rest) name := by
  simp only [optional?, read?, occurrences_cons, if_neg other]

@[simp] theorem required?_skip [Inhabited α] {m : Member} {name : String} (rest : List Member)
    (other : m.name ≠ name) :
    (required? (Member.rows (m :: rest)) name : Option α) =
      required? (Member.rows rest) name := by
  simp only [required?, optional?_skip rest other]

@[simp] theorem mandatory?_rows [LawfulCodec α] {name : String} {value : α} {rest : List Member}
    (once : occurrences (Member.rows rest) name = []) :
    mandatory? (Member.rows (.required name value :: rest)) name = some value := by
  rw [mandatory?, read?, occurrences_cons, if_pos (Member.name_required name value), once]
  simp [Member.required, LawfulCodec.decode_encode]

@[simp] theorem mandatory?_skip {m : Member} {name : String} (rest : List Member) (other : m.name ≠ name) :
    (mandatory? (Member.rows (m :: rest)) name : Option α) = mandatory? (Member.rows rest) name := by
  simp only [mandatory?, read?, occurrences_cons, if_neg other]

/-- A member may be left out where its value is the default. -/
theorem defaulted?_rows [LawfulCodec α] [Inhabited α] {name : String} {value : α} {rest : List Member}
    {omitted : Prop} [Decidable omitted] (known : omitted → value = default)
    (once : occurrences (Member.rows rest) name = []) :
    defaulted? (Member.rows (⟨name, if omitted then none else some (encode value)⟩ :: rest)) name =
      some value := by
  rw [defaulted?, read?, occurrences_cons, if_pos rfl, once]
  by_cases left : omitted
  · simp [left, known left]
  · simp [left, LawfulCodec.decode_encode]

@[simp] theorem defaulted?_skip [Inhabited α] {m : Member} {name : String} (rest : List Member)
    (other : m.name ≠ name) :
    (defaulted? (Member.rows (m :: rest)) name : Option α) = defaulted? (Member.rows rest) name := by
  simp only [defaulted?, read?, occurrences_cons, if_neg other]

@[simp] theorem declared?_record {members : List Member}
    (order : Member.namesInOrder (members.map Member.name) = true) (least : Nat) (names : List String) :
    declared? least names (.record members) = some (Member.rows members) := by
  have once : names.all (fun name => (occurrences (Member.rows members) name).length ≤ 1) = true := by
    simp [length_occurrences_le (Member.inOrder_of_names order)]
  rw [Json.record, declared?, if_pos once]

@[simp] theorem constant?_rows {name text : String} {rest : List Member}
    (once : occurrences (Member.rows rest) name = []) :
    constant? (Member.rows (.required name text :: rest)) name text = some () := by
  rw [constant?, occurrences_cons, if_pos (Member.name_required name text), once]
  simp [Member.required, encode]

@[simp] theorem constant?_skip {m : Member} {name : String} (rest : List Member) (text : String)
    (other : m.name ≠ name) :
    constant? (Member.rows (m :: rest)) name text = constant? (Member.rows rest) name text := by
  simp only [constant?, occurrences_cons, if_neg other]

end Record

namespace Json

mutual

/-- No part of a value is a float; its integers and the rows of its objects are as they are asked to be. -/
def Written (ints : Int → Prop) (rows : Fields → Prop) : Json → Prop
  | .null | .bool _ | .str _ => True
  | .int n => ints n
  | .float _ => False
  | .arr items => WrittenItems ints rows items
  | .obj fields => rows fields ∧ WrittenFields ints rows fields

def WrittenItems (ints : Int → Prop) (rows : Fields → Prop) : List Json → Prop
  | [] => True
  | item :: rest => Written ints rows item ∧ WrittenItems ints rows rest

def WrittenFields (ints : Int → Prop) (rows : Fields → Prop) : List (String × Json) → Prop
  | [] => True
  | (_, value) :: rest => Written ints rows value ∧ WrittenFields ints rows rest

end

section Written

variable {ints others : Int → Prop} {rows forms : Fields → Prop}

mutual

theorem Written.mono (hi : ∀ n, ints n → others n) (hr : ∀ fields, rows fields → forms fields) :
    ∀ v : Json, Written ints rows v → Written others forms v
  | .null, _ | .bool _, _ | .str _, _ => trivial
  | .int n, h => hi n h
  | .float _, h => h.elim
  | .arr items, h => WrittenItems.mono hi hr items h
  | .obj fields, h => ⟨hr fields h.1, WrittenFields.mono hi hr fields h.2⟩

theorem WrittenItems.mono (hi : ∀ n, ints n → others n) (hr : ∀ fields, rows fields → forms fields) :
    ∀ items : List Json, WrittenItems ints rows items → WrittenItems others forms items
  | [], _ => trivial
  | item :: rest, h => ⟨Written.mono hi hr item h.1, WrittenItems.mono hi hr rest h.2⟩

theorem WrittenFields.mono (hi : ∀ n, ints n → others n) (hr : ∀ fields, rows fields → forms fields) :
    ∀ fields : Fields, WrittenFields ints rows fields → WrittenFields others forms fields
  | [], _ => trivial
  | (_, value) :: rest, h => ⟨Written.mono hi hr value h.1, WrittenFields.mono hi hr rest h.2⟩

end

mutual

theorem Written.sorted : ∀ v : Json, Written ints Rows.Increasing v → v.Sorted
  | .null, _ | .bool _, _ | .str _, _ | .int _, _ => trivial
  | .float _, h => h.elim
  | .arr items, h => WrittenItems.sorted items h
  | .obj fields, h => ⟨h.1, WrittenFields.sorted fields h.2⟩

theorem WrittenItems.sorted :
    ∀ items : List Json, WrittenItems ints Rows.Increasing items → SortedItems items
  | [], _ => trivial
  | item :: rest, h => ⟨Written.sorted item h.1, WrittenItems.sorted rest h.2⟩

theorem WrittenFields.sorted :
    ∀ fields : Fields, WrittenFields ints Rows.Increasing fields → SortedFields fields
  | [], _ => trivial
  | (_, value) :: rest, h => ⟨Written.sorted value h.1, WrittenFields.sorted rest h.2⟩

end

theorem writtenItems_of_forall {items : List Json} (h : ∀ item ∈ items, Written ints rows item) :
    WrittenItems ints rows items := by
  induction items with
  | nil => trivial
  | cons item rest ih =>
    exact ⟨h item List.mem_cons_self, ih fun item hi => h item (List.mem_cons_of_mem _ hi)⟩

theorem writtenFields_of_forall {fields : Fields} (h : ∀ row ∈ fields, Written ints rows row.2) :
    WrittenFields ints rows fields := by
  induction fields with
  | nil => trivial
  | cons row rest ih =>
    exact ⟨h row List.mem_cons_self, ih fun row hr => h row (List.mem_cons_of_mem _ hr)⟩

end Written

def IsWord (n : Int) : Prop := -0x8000000000000000 ≤ n ∧ n < 0x10000000000000000

/-- What the program writes: no floats, integers that fit in a word, and every object with its keys in
order. -/
def Plain : Json → Prop := Written IsWord Rows.Increasing

def FloatFree : Json → Prop := Written (fun _ => True) fun _ => True

theorem Plain.floatFree {v : Json} (plain : v.Plain) : v.FloatFree :=
  Written.mono (fun _ _ => trivial) (fun _ _ => trivial) v plain

theorem Plain.sorted {v : Json} (plain : v.Plain) : v.Sorted := Written.sorted v plain

end Json

def Member.Plain (m : Member) : Prop := ∀ v, m.value = some v → v.Plain

namespace Json

@[simp] theorem fields?_record (members : List Member) :
    (record members).fields? = some (Member.rows members) := by
  simp only [record, fields?]

theorem record_ne_null (members : List Member) : record members ≠ .null := nofun

theorem get?_record {members : List Member} (order : Member.InOrder members) {m : Member}
    (hm : m ∈ members) : (record members).get? m.name = m.value :=
  Member.get?_rows_of_mem order hm

theorem set_record {members : List Member} (order : Member.InOrder members) {name : String}
    (known : ∃ m ∈ members, m.name = name) (v : Json) :
    (record members).set name v = record (Member.replace name (some v) members) :=
  congrArg obj (Member.insert_rows order v known)

theorem remove_record {members : List Member} (order : Member.InOrder members) (name : String) :
    (record members).remove name = record (Member.replace name none members) :=
  congrArg obj (Member.erase_rows order name)

theorem plain_record {members : List Member} (order : Member.InOrder members)
    (h : ∀ m ∈ members, m.Plain) : (record members).Plain := by
  refine ⟨Member.rows_increasing order, writtenFields_of_forall fun row hr => ?_⟩
  obtain ⟨m, hm, _, hv⟩ := Member.mem_rows hr
  exact h m hm row.2 hv

end Json

end JupyterWorkloads
