import JupyterWorkloads.Store.Memory

/-! What a call leaves alone: every key but its own, the keys that reads miss and the kinds that fail.
Versions only grow. -/
namespace JupyterWorkloads.Store.Memory

def empty : Memory where
  objects := ∅
  writes := []
  version := 0
  hidden := []
  failing := []

/-- Nothing changed under the keys, and the store is as reliable as before. -/
structure Keeps (keys : ChildKey → Prop) (m m' : Memory) : Prop where
  objects : ∀ key, keys key → m'.object? key = m.object? key
  hidden : m'.hidden = m.hidden
  failing : m'.failing = m.failing
  version : m.version ≤ m'.version

namespace Keeps

variable {keys fewer : ChildKey → Prop} {m m' m'' : Memory}

theorem refl (keys : ChildKey → Prop) (m : Memory) : Keeps keys m m :=
  ⟨fun _ _ => rfl, rfl, rfl, Nat.le_refl _⟩

theorem trans (h : Keeps keys m m') (h' : Keeps keys m' m'') : Keeps keys m m'' :=
  ⟨fun key hk => (h'.objects key hk).trans (h.objects key hk), h'.hidden.trans h.hidden,
    h'.failing.trans h.failing, Nat.le_trans h.version h'.version⟩

theorem mono (sub : ∀ key, fewer key → keys key) (h : Keeps keys m m') : Keeps fewer m m' :=
  ⟨fun key hk => h.objects key (sub key hk), h.hidden, h.failing, h.version⟩

end Keeps

@[simp] theorem object?_logged (m : Memory) (write : Write) (key : ChildKey) :
    (m.logged write).object? key = m.object? key := rfl

@[simp] theorem object?_put (m : Memory) (key other : ChildKey) (child : Child) :
    (m.put key child).2.object? other =
      if key = other then some (admitted (m.version + 1) child) else m.object? other :=
  Table.get?_insert m.objects key other _

theorem contains_eq (m : Memory) (key : ChildKey) :
    m.objects.contains key = (m.object? key).isSome := rfl

theorem object?_delete (m : Memory) (key other : ChildKey) :
    (m.delete key).object? other = if key = other then none else m.object? other := by
  unfold delete
  split
  · exact Table.get?_erase m.objects key other
  · rename_i absent
    split
    · rename_i same
      rw [← same]
      simpa [contains_eq] using absent
    · rfl

def unversioned (child : Child) : Child :=
  child.mapMetadata fun m => { m with resourceVersion := none }

section Create

variable {m : Memory} {child : Child}

theorem create_refused (fails : child.kind ∈ m.failing) :
    m.create child = (.error (refusal child 500 "InternalError"), m) := by
  rw [create, if_pos fails]

theorem create_taken {live : Child} (works : child.kind ∉ m.failing)
    (present : m.object? child.key = some live) :
    m.create child = (.error (.alreadyExists child.ref), m) := by
  rw [create, if_neg works, contains_eq, present]
  rfl

theorem create_free (works : child.kind ∉ m.failing) (absent : m.object? child.key = none) :
    m.create child = (.ok (admitted (m.version + 1) (unversioned child)),
      (m.put child.key (unversioned child)).2.logged (.create child.kind child.name)) := by
  rw [create, if_neg works, contains_eq, absent]
  rfl

end Create

section Replace

variable {m : Memory} {live child : Child}

theorem replace_refused (fails : child.kind ∈ m.failing) :
    m.replace child = (.error (refusal child 500 "InternalError"), m) := by
  rw [replace, if_pos fails]

theorem replace_missing (works : child.kind ∉ m.failing) (absent : m.object? child.key = none) :
    m.replace child = (.error (refusal child 404 "NotFound"), m) := by
  rw [replace, if_neg works, absent]

theorem replace_stale (works : child.kind ∉ m.failing) (present : m.object? child.key = some live)
    (stale : live.metadata.resourceVersion ≠ child.metadata.resourceVersion) :
    m.replace child = (.error (.conflict child.ref), m) := by
  simp only [replace, if_neg works, present, if_pos stale]

theorem replace_fixed (works : child.kind ∉ m.failing) (present : m.object? child.key = some live)
    (current : live.metadata.resourceVersion = child.metadata.resourceVersion)
    (fixed : changesFixed live child = true) :
    m.replace child = (.error (refusal child 422 "Invalid"), m) := by
  simp only [replace, if_neg works, present, if_neg (not_not_intro current), if_pos fixed]

theorem replace_admitted (works : child.kind ∉ m.failing)
    (present : m.object? child.key = some live)
    (current : live.metadata.resourceVersion = child.metadata.resourceVersion)
    (allowed : changesFixed live child = false) :
    m.replace child = (.ok (admitted (m.version + 1) (carryOver live child)),
      (m.put child.key (carryOver live child)).2.logged (.replace child.kind child.name)) := by
  simp only [replace, if_neg works, present, if_neg (not_not_intro current), allowed]
  rfl

end Replace

theorem keeps_put (m : Memory) (key : ChildKey) (child : Child) (write : Write) :
    Keeps (· ≠ key) m ((m.put key child).2.logged write) :=
  ⟨fun other ho => by rw [object?_logged, object?_put, if_neg ho.symm], rfl, rfl, Nat.le_succ _⟩

/-- A creation is refused, which changes nothing, or it stores one object and is logged. -/
theorem create_result (m : Memory) (child : Child) : (∃ e, m.create child = (.error e, m)) ∨
    ∃ next, m.create child = (.ok (admitted (m.version + 1) next),
      (m.put child.key next).2.logged (.create child.kind child.name)) := by
  by_cases fails : child.kind ∈ m.failing
  · exact .inl ⟨_, create_refused fails⟩
  · cases found : m.object? child.key with
    | none => exact .inr ⟨_, create_free fails found⟩
    | some live => exact .inl ⟨_, create_taken fails found⟩

theorem create_cases (m : Memory) (child : Child) : (m.create child).2 = m ∨
    ∃ next write, (m.create child).2 = (m.put child.key next).2.logged write := by
  rcases create_result m child with ⟨e, refused⟩ | ⟨next, stored⟩
  · exact .inl (by rw [refused])
  · exact .inr ⟨next, _, by rw [stored]⟩

theorem replace_result (m : Memory) (child : Child) : (∃ e, m.replace child = (.error e, m)) ∨
    ∃ next, m.replace child = (.ok (admitted (m.version + 1) next),
      (m.put child.key next).2.logged (.replace child.kind child.name)) := by
  by_cases fails : child.kind ∈ m.failing
  · exact .inl ⟨_, replace_refused fails⟩
  · cases found : m.object? child.key with
    | none => exact .inl ⟨_, replace_missing fails found⟩
    | some live =>
      by_cases current : live.metadata.resourceVersion = child.metadata.resourceVersion
      · cases fixed : changesFixed live child with
        | true => exact .inl ⟨_, replace_fixed fails found current fixed⟩
        | false => exact .inr ⟨_, replace_admitted fails found current fixed⟩
      · exact .inl ⟨_, replace_stale fails found current⟩

theorem replace_cases (m : Memory) (child : Child) : (m.replace child).2 = m ∨
    ∃ next write, (m.replace child).2 = (m.put child.key next).2.logged write := by
  rcases replace_result m child with ⟨e, refused⟩ | ⟨next, stored⟩
  · exact .inl (by rw [refused])
  · exact .inr ⟨next, _, by rw [stored]⟩

theorem keeps_create (m : Memory) (child : Child) : Keeps (· ≠ child.key) m (m.create child).2 := by
  rcases create_cases m child with same | ⟨next, write, stored⟩
  · rw [same]
    exact .refl _ m
  · rw [stored]
    exact keeps_put m child.key next write

theorem keeps_replace (m : Memory) (child : Child) :
    Keeps (· ≠ child.key) m (m.replace child).2 := by
  rcases replace_cases m child with same | ⟨next, write, stored⟩
  · rw [same]
    exact .refl _ m
  · rw [stored]
    exact keeps_put m child.key next write

theorem keeps_delete (m : Memory) (key : ChildKey) : Keeps (· ≠ key) m (m.delete key) := by
  refine ⟨fun other ho => by rw [object?_delete, if_neg ho.symm], ?_, ?_, ?_⟩
  all_goals
    unfold delete
    split <;> first | exact Nat.le_refl _ | rfl

/-- A call changes the object of its own key at most. -/
theorem keeps_handle (call : Call) (m : Memory) : Keeps (· ≠ call.key) m (m.handle call).2 := by
  cases call with
  | get key => exact .refl _ m
  | create child => exact keeps_create m child
  | replace child => exact keeps_replace m child
  | delete key => exact keeps_delete m key

end JupyterWorkloads.Store.Memory
