import JupyterWorkloads.Json.Basic

/-! Paths into a value: what is found under a path, and which paths a value has. A list or an object has
the paths of its items or members behind one step, and where all keys are in order they are in order in
every part. -/
namespace JupyterWorkloads.Json

inductive Step where
  | field (name : String)
  | item (index : Nat)
  deriving DecidableEq, Inhabited

def step? (v : Json) : Step → Option Json
  | .field name => v.get? name
  | .item index => v.items?.bind fun items => items[index]?

/-- The value under a path, if each of its steps leads somewhere. -/
def at? (v : Json) : List Step → Option Json
  | [] => some v
  | step :: rest => (v.step? step).bind fun part => part.at? rest

/-- The value has the path, with the other value under it. -/
inductive Occurs : Json → List Step → Json → Prop where
  | here {v : Json} : Occurs v [] v
  | field {fields : Fields} {name : String} {part v : Json} {path : List Step} :
      (name, part) ∈ fields → Occurs part path v → Occurs (.obj fields) (.field name :: path) v
  | item {items : List Json} {index : Nat} {part v : Json} {path : List Step} :
      items[index]? = some part → Occurs part path v →
        Occurs (.arr items) (.item index :: path) v

/-- Neither null nor a list nor an object. -/
def IsScalar : Json → Prop
  | .bool _ | .int _ | .float _ | .str _ => True
  | .null | .arr _ | .obj _ => False

/-- Induction on a value with the items of a list and the members of an object as its parts. -/
@[elab_as_elim]
theorem inductionOnParts {motive : Json → Prop} (null : motive .null)
    (scalar : ∀ v, v.IsScalar → motive v)
    (list : ∀ items, (∀ item ∈ items, motive item) → motive (.arr items))
    (object : ∀ fields, (∀ row ∈ fields, motive row.2) → motive (.obj fields)) :
    ∀ v, motive v
  | .null => null
  | .bool _ => scalar _ trivial
  | .int _ => scalar _ trivial
  | .float _ => scalar _ trivial
  | .str _ => scalar _ trivial
  | .arr items => list items fun item _ => inductionOnParts null scalar list object item
  | .obj fields => object fields fun row _ => inductionOnParts null scalar list object row.2
termination_by v => sizeOf v
decreasing_by
  · rename_i hi
    have smaller := List.sizeOf_lt_of_mem hi
    simp only [arr.sizeOf_spec]
    omega
  · rename_i hr
    have smaller := List.sizeOf_lt_of_mem hr
    have part : sizeOf row = 1 + sizeOf row.1 + sizeOf row.2 := rfl
    simp only [obj.sizeOf_spec]
    omega

section Occurs

variable {P : List Step → Json → Prop}

theorem forall_occurs_leaf {v : Json} (leaf : ∀ step rest w, ¬ Occurs v (step :: rest) w) :
    (∀ path w, Occurs v path w → P path w) ↔ P [] v := by
  constructor
  · intro h
    exact h [] v .here
  · intro h path w occurs
    cases path with
    | nil =>
      cases occurs
      exact h
    | cons step rest => exact absurd occurs (leaf step rest w)

theorem forall_occurs_obj (fields : Fields) :
    (∀ path w, Occurs (.obj fields) path w → P path w) ↔
      P [] (.obj fields) ∧
        ∀ row ∈ fields, ∀ path w, Occurs row.2 path w → P (.field row.1 :: path) w := by
  constructor
  · intro h
    exact ⟨h _ _ .here, fun row hr path w occurs => h _ _ (.field hr occurs)⟩
  · rintro ⟨root, parts⟩ path w occurs
    cases occurs with
    | here => exact root
    | field hm occurs => exact parts _ hm _ _ occurs

theorem forall_occurs_arr (items : List Json) :
    (∀ path w, Occurs (.arr items) path w → P path w) ↔
      P [] (.arr items) ∧ ∀ index part, items[index]? = some part →
        ∀ path w, Occurs part path w → P (.item index :: path) w := by
  constructor
  · intro h
    exact ⟨h _ _ .here, fun index part hi path w occurs => h _ _ (.item hi occurs)⟩
  · rintro ⟨root, parts⟩ path w occurs
    cases occurs with
    | here => exact root
    | item hi occurs => exact parts _ _ hi _ _ occurs

end Occurs

section Sorted

theorem sortedItems_iff (items : List Json) : SortedItems items ↔ ∀ item ∈ items, item.Sorted := by
  induction items with
  | nil => simp [SortedItems]
  | cons item rest ih => simp [SortedItems, ih]

theorem sortedFields_iff (fields : Fields) : SortedFields fields ↔ ∀ row ∈ fields, row.2.Sorted := by
  induction fields with
  | nil => simp [SortedFields]
  | cons row rest ih =>
    obtain ⟨name, part⟩ := row
    simp [SortedFields, ih]

theorem sorted_obj (fields : Fields) :
    (obj fields).Sorted ↔ Rows.Increasing fields ∧ ∀ row ∈ fields, row.2.Sorted := by
  rw [Sorted, sortedFields_iff]

theorem sorted_arr (items : List Json) : (arr items).Sorted ↔ ∀ item ∈ items, item.Sorted := by
  rw [Sorted, sortedItems_iff]

theorem Sorted.insert {fields : Fields} {name : String} {part : Json} (h : (obj fields).Sorted)
    (hp : part.Sorted) : (obj (Rows.insert name part fields)).Sorted := by
  rw [sorted_obj] at h ⊢
  refine ⟨h.1.insert name part, ?_⟩
  intro row hr
  rcases Rows.mem_insert hr with rfl | old
  · exact hp
  · exact h.2 row old

theorem Sorted.erase {fields : Fields} (h : (obj fields).Sorted) (name : String) :
    (obj (Rows.erase name fields)).Sorted := by
  rw [sorted_obj] at h ⊢
  exact ⟨h.1.erase name, fun row hr => h.2 row (Rows.mem_erase hr)⟩

theorem Sorted.step? {v part : Json} (h : v.Sorted) (step : Step) (found : v.step? step = some part) :
    part.Sorted := by
  cases step with
  | field name =>
    cases v with
    | obj fields => exact ((sorted_obj fields).mp h).2 _ (Rows.mem_of_get? found)
    | _ => cases found
  | item index =>
    cases v with
    | arr items => exact (sorted_arr items).mp h _ (List.mem_of_getElem? found)
    | _ => cases found

end Sorted

end JupyterWorkloads.Json
