import JupyterWorkloads.Proofs.Child.Stored

/-! Other clients of the store. Whatever they write, the versions of the stored objects tell when each was
stored: an object that was written since some moment has a later version than all that were stored then. -/
namespace JupyterWorkloads

theorem Text.ofNat_inj {m n : Nat} (same : Text.ofNat m = Text.ofNat n) : m = n := by
  have chars : Nat.toDigits 10 m = Nat.toDigits 10 n := String.ofList_injective same
  rw [← Nat.ofDigitChars_ten_toDigits (n := m), chars, Nat.ofDigitChars_ten_toDigits]

namespace Store.Memory

/-- What another client may do: seed an object, edit the one of a key in place, or make a call. -/
inductive Edit where
  | insert (child : Child)
  | mutate (key : ChildKey) (change : Child → Child)
  | create (child : Child)
  | replace (child : Child)
  | delete (key : ChildKey)

def Edit.apply (m : Memory) : Edit → Memory
  | insert child => (m.insert child).2
  | mutate key change => m.mutate key change
  | create child => (m.create child).2
  | replace child => (m.replace child).2
  | delete key => m.delete key

/-- The object that an edit stores, with its key. A refused edit and a deletion store nothing. -/
def Edit.stored? (m : Memory) : Edit → Option (ChildKey × Child)
  | insert child => some (child.key, (m.insert child).1)
  | mutate key change => (m.object? key).map fun live => (key, (m.put key (change live)).1)
  | create child => (m.create child).1.toOption.map fun stored => (child.key, stored)
  | replace child => (m.replace child).1.toOption.map fun stored => (child.key, stored)
  | delete _ => none

/-- What an edit can do: store one object, delete one, or be refused. -/
inductive Edit.Effect (m : Memory) (e : Edit) : Prop where
  | stores (key : ChildKey) (next : Child) (writes : List Write) :
      e.stored? m = some (key, (m.put key next).1) →
      e.apply m = { (m.put key next).2 with writes := writes } → Effect m e
  | deletes {key : ChildKey} : e = .delete key → Effect m e
  | refused : e.stored? m = none → e.apply m = m → Effect m e

theorem Edit.effect (m : Memory) (e : Edit) : e.Effect m := by
  cases e with
  | insert child => exact .stores child.key child _ rfl rfl
  | mutate key change =>
    cases found : m.object? key with
    | none => exact .refused (by simp [stored?, found]) (by simp [apply, Memory.mutate, found])
    | some live =>
      refine .stores key (change live) m.writes ?_ ?_
      · simp only [stored?, found, Option.map_some]
      · simp only [apply, Memory.mutate, found]
        rfl
  | create child =>
    rcases create_result m child with ⟨error, refused⟩ | ⟨next, stored⟩
    · exact .refused (by simp [stored?, refused, Except.toOption]) (by simp [apply, refused])
    · refine .stores child.key next _ ?_ (congrArg Prod.snd stored)
      simp only [stored?, stored, Except.toOption, Option.map_some]
      rfl
  | replace child =>
    rcases replace_result m child with ⟨error, refused⟩ | ⟨next, stored⟩
    · exact .refused (by simp [stored?, refused, Except.toOption]) (by simp [apply, refused])
    · refine .stores child.key next _ ?_ (congrArg Prod.snd stored)
      simp only [stored?, stored, Except.toOption, Option.map_some]
      rfl
  | delete key => exact .deletes rfl

def edited (m : Memory) (edits : List Edit) : Memory := edits.foldl Edit.apply m

/-- The stores that come from an empty one by edits, hidden keys and failing kinds. -/
inductive Reachable : Memory → Prop where
  | empty : Reachable Memory.empty
  | edit {m : Memory} (e : Edit) : Reachable m → Reachable (e.apply m)
  | hide {m : Memory} (key : ChildKey) : Reachable m → Reachable (m.hide key)
  | failWritesFor {m : Memory} (kind : ChildKind) : Reachable m → Reachable (m.failWritesFor kind)

def StoredAs (version : Nat) (c : Child) : Prop :=
  c.metadata.resourceVersion = some (Text.ofNat version)

/-- What became of a key from one store to a later one: it holds what it held, nothing, or an object that
was stored in between. -/
inductive Succeeded (m m' : Memory) (key : ChildKey) : Prop where
  | kept : m'.object? key = m.object? key → Succeeded m m' key
  | gone : m'.object? key = none → Succeeded m m' key
  | stored {version : Nat} {c : Child} : m'.object? key = some c → StoredAs version c →
      m.version < version → version ≤ m'.version → Succeeded m m' key

/-- The second store comes later than the first and is as reliable. -/
structure Advances (m m' : Memory) : Prop where
  hidden : m'.hidden = m.hidden
  failing : m'.failing = m.failing
  version : m.version ≤ m'.version
  slots : ∀ key, Succeeded m m' key

/-- Every object was stored as a version that has been given out. -/
def Versioned (m : Memory) : Prop :=
  ∀ key live, m.object? key = some live → ∃ version, StoredAs version live ∧ version ≤ m.version

section Advances

variable {m m' m'' : Memory}

theorem Advances.refl (m : Memory) : Advances m m :=
  ⟨rfl, rfl, Nat.le_refl _, fun _ => .kept rfl⟩

theorem Advances.trans (h : Advances m m') (h' : Advances m' m'') : Advances m m'' := by
  refine ⟨h'.hidden.trans h.hidden, h'.failing.trans h.failing, Nat.le_trans h.version h'.version, ?_⟩
  intro key
  cases h'.slots key with
  | gone absent => exact .gone absent
  | stored present version new known =>
    exact .stored present version (Nat.lt_of_le_of_lt h.version new) known
  | kept same =>
    cases h.slots key with
    | kept same' => exact .kept (same.trans same')
    | gone absent => exact .gone (same.trans absent)
    | stored present version new known =>
      exact .stored (same.trans present) version new (Nat.le_trans known h'.version)

theorem storedAs_admitted (version : Nat) (c : Child) : StoredAs version (admitted version c) := by
  rw [StoredAs, Child.metadata_admitted]

theorem advances_put (m : Memory) (key : ChildKey) (child : Child) : Advances m (m.put key child).2 := by
  refine ⟨rfl, rfl, Nat.le_succ _, ?_⟩
  intro other
  by_cases here : key = other
  · refine .stored ?_ (storedAs_admitted (m.version + 1) child) (Nat.lt_succ_self _) (Nat.le_refl _)
    rw [object?_put, if_pos here]
  · exact .kept (by rw [object?_put, if_neg here])

theorem advances_writes (m : Memory) (writes : List Write) : Advances m { m with writes := writes } :=
  ⟨rfl, rfl, Nat.le_refl _, fun _ => .kept rfl⟩

theorem advances_delete (m : Memory) (key : ChildKey) : Advances m (m.delete key) := by
  have keeps := keeps_delete m key
  refine ⟨keeps.hidden, keeps.failing, keeps.version, ?_⟩
  intro other
  by_cases here : key = other
  · exact .gone (by rw [object?_delete, if_pos here])
  · exact .kept (by rw [object?_delete, if_neg here])

/-- Nothing that another client does can make a key hold an object of an earlier version again. -/
theorem advances_apply (m : Memory) (e : Edit) : Advances m (e.apply m) := by
  cases e.effect m with
  | stores _ _ _ _ after =>
    rw [after]
    exact (advances_put m _ _).trans (advances_writes _ _)
  | deletes is => exact is ▸ advances_delete m _
  | refused _ same => rw [same]; exact .refl m

theorem advances_edited (m : Memory) (edits : List Edit) : Advances m (m.edited edits) := by
  induction edits generalizing m with
  | nil => exact .refl m
  | cons e rest ih => exact (advances_apply m e).trans (ih (e.apply m))

theorem Versioned.advances (versioned : Versioned m) (h : Advances m m') : Versioned m' := by
  intro key live present
  cases h.slots key with
  | kept same =>
    obtain ⟨version, stored, known⟩ := versioned key live (same.symm.trans present)
    exact ⟨version, stored, Nat.le_trans known h.version⟩
  | gone absent => cases absent.symm.trans present
  | stored present' stored _ known =>
    cases present'.symm.trans present
    exact ⟨_, stored, known⟩

theorem Reachable.versioned (h : Reachable m) : Versioned m := by
  induction h with
  | empty =>
    intro key live present
    cases (Table.get?_empty (ν := Child) key).symm.trans present
  | edit e _ ih => exact ih.advances (advances_apply _ e)
  | hide key _ ih => exact ih
  | failWritesFor kind _ ih => exact ih

theorem Advances.newer (h : Advances m m') {key : ChildKey} {theirs : Child}
    (present : m'.object? key = some theirs) (new : m.object? key ≠ some theirs) :
    ∃ version, StoredAs version theirs ∧ m.version < version ∧ version ≤ m'.version := by
  cases h.slots key with
  | kept same => exact absurd (same.symm.trans present) new
  | gone absent => cases absent.symm.trans present
  | stored present' stored later known =>
    cases present'.symm.trans present
    exact ⟨_, stored, later, known⟩

theorem StoredAs.inj {version version' : Nat} {a b : Child} (h : StoredAs version a)
    (h' : StoredAs version' b) (same : a.metadata.resourceVersion = b.metadata.resourceVersion) :
    version = version' :=
  Text.ofNat_inj (Option.some.inj (h.symm.trans (same.trans h')))

theorem exists_mutated {key : ChildKey} (present : ∃ live, m.object? key = some live)
    (versioned : Versioned m) (change : Child → Child) :
    ∃ theirs, (m.mutate key change).object? key = some theirs ∧ m.object? key ≠ some theirs := by
  obtain ⟨live, found⟩ := present
  refine ⟨admitted (m.version + 1) (change live), ?_, ?_⟩
  · simp only [mutate, found, object?_put, if_pos]
  · intro same
    obtain ⟨version, stored, known⟩ := versioned key _ same
    have equal := stored.inj (storedAs_admitted (m.version + 1) _) rfl
    omega

end Advances

end Store.Memory

end JupyterWorkloads
