import JupyterWorkloads.Proofs.Store.Clients

/-! Versions tell writes apart. Each object that is stored takes a version that no object had before, so
what was read from a key is never replaced once anything else was written there: not after an edit, and
not after a deletion and a creation that left an object of the same content. -/
namespace JupyterWorkloads.Store.Memory

/-- The edit stores an object under the key or takes away what is there. -/
def Edit.Hits (m : Memory) (key : ChildKey) (e : Edit) : Prop :=
  (∃ stored, e.stored? m = some (key, stored)) ∨ e = .delete key

/-- The stored objects have versions that were given out, no two of them the same one. -/
structure Distinguished (m : Memory) : Prop where
  known : ∀ key c, m.object? key = some c →
    ∃ version, StoredAs version c ∧ 0 < version ∧ version ≤ m.version
  apart : ∀ key key' c c', m.object? key = some c → m.object? key' = some c' →
    c.metadata.resourceVersion = c'.metadata.resourceVersion → key = key'

/-- The version was given out, and objects that carry it stand under keys of a kind. -/
structure Confined (m : Memory) (version : Nat) (keys : ChildKey → Prop) : Prop where
  given : version ≤ m.version
  carried : ∀ key c, m.object? key = some c → StoredAs version c → keys key

/-- No replacement made from the version succeeds, and none changes the store. -/
def Refuses (m : Memory) (version : Option String) : Prop :=
  ∀ child : Child, child.metadata.resourceVersion = version →
    ∃ error, m.replace child = (.error error, m)

/-- A store without objects; reads miss the keys, and objects of the kinds cannot be written. -/
def unreliable (hidden : List ChildKey) (failing : List ChildKind) : Memory :=
  { empty with hidden := hidden, failing := failing }

section Step

variable {m : Memory}

theorem object?_stored {e : Edit} {key : ChildKey} {next : Child} {writes : List Write}
    (after : e.apply m = { (m.put key next).2 with writes := writes }) (other : ChildKey) :
    (e.apply m).object? other =
      if key = other then some (admitted (m.version + 1) next) else m.object? other := by
  rw [after]
  exact object?_put m key other next

theorem object?_of_delete {key other : ChildKey} {c : Child}
    (present : (m.delete key).object? other = some c) : key ≠ other ∧ m.object? other = some c := by
  rw [object?_delete] at present
  split at present
  · cases present
  · exact ⟨‹_›, present⟩

/-- An object that an edit stores is there afterwards, under a version of its own. -/
theorem stored_as_next {e : Edit} {key : ChildKey} {stored : Child}
    (given : e.stored? m = some (key, stored)) :
    (e.apply m).object? key = some stored ∧ (e.apply m).version = m.version + 1 ∧
      StoredAs (m.version + 1) stored := by
  cases e.effect m with
  | stores _ _ _ given' after =>
    cases given.symm.trans given'
    refine ⟨?_, by rw [after]; rfl, storedAs_admitted _ _⟩
    rw [object?_stored after, if_pos rfl]
    rfl
  | deletes is =>
    subst is
    cases given
  | refused none => cases given.symm.trans none

theorem Distinguished.apply (h : Distinguished m) (e : Edit) : Distinguished (e.apply m) := by
  cases e.effect m with
  | stores key next _ _ after =>
    have version : (e.apply m).version = m.version + 1 := by rw [after]; rfl
    have new := storedAs_admitted (m.version + 1) next
    have other : ∀ {k c}, m.object? k = some c →
        c.metadata.resourceVersion ≠ (admitted (m.version + 1) next).metadata.resourceVersion := by
      intro k c present same
      obtain ⟨old, stored, _, known⟩ := h.known k c present
      have := stored.inj new same
      omega
    constructor
    · intro k c present
      rw [object?_stored after] at present
      split at present
      · cases present
        exact ⟨_, new, by omega, by omega⟩
      · obtain ⟨old, stored, positive, known⟩ := h.known k c present
        exact ⟨old, stored, positive, by omega⟩
    · intro k k' c c' present present' same
      rw [object?_stored after] at present present'
      split at present <;> split at present'
      · rename_i here here'
        exact here.symm.trans here'
      · cases present
        exact absurd same.symm (other present')
      · cases present'
        exact absurd same (other present)
      · exact h.apart k k' c c' present present' same
  | deletes is =>
    subst is
    have grown := (keeps_delete m ‹_›).version
    constructor
    · intro k c present
      obtain ⟨old, stored, positive, known⟩ := h.known k c (object?_of_delete present).2
      exact ⟨old, stored, positive, Nat.le_trans known grown⟩
    · intro k k' c c' present present' same
      exact h.apart k k' c c' (object?_of_delete present).2 (object?_of_delete present').2 same
  | refused _ same => rwa [same]

/-- What was given out before stays confined: later objects carry later versions. -/
theorem Confined.advances {m' : Memory} {version : Nat} {keys : ChildKey → Prop}
    (h : Confined m version keys) (later : Advances m m') : Confined m' version keys := by
  refine ⟨Nat.le_trans h.given later.version, ?_⟩
  intro key c present carries
  cases later.slots key with
  | kept same => exact h.carried key c (same.symm.trans present) carries
  | gone absent => cases absent.symm.trans present
  | stored present' stored new =>
    cases present'.symm.trans present
    have := stored.inj carries rfl
    have := h.given
    omega

/-- After an edit of the one key that could hold the version, no object carries it any more. -/
theorem Confined.hit {version : Nat} {key : ChildKey} {e : Edit}
    (h : Confined m version (· = key)) (hits : e.Hits m key) :
    Confined (e.apply m) version fun _ => False := by
  have after := h.advances (advances_apply m e)
  refine ⟨after.given, ?_⟩
  intro other c present carries
  cases after.carried other c present carries
  rcases hits with ⟨stored, given⟩ | is
  · obtain ⟨there, _, new⟩ := stored_as_next given
    cases there.symm.trans present
    have := new.inj carries rfl
    have := h.given
    omega
  · subst is
    exact (object?_of_delete present).1 rfl

theorem Confined.refuses {version : Nat} (h : Confined m version fun _ => False) :
    m.Refuses (some (Text.ofNat version)) := by
  intro child carries
  by_cases fails : child.kind ∈ m.failing
  · exact ⟨_, replace_refused fails⟩
  · cases found : m.object? child.key with
    | none => exact ⟨_, replace_missing fails found⟩
    | some live =>
      have stale : live.metadata.resourceVersion ≠ child.metadata.resourceVersion :=
        fun same => h.carried _ live found (same.trans carries)
      exact ⟨_, replace_stale fails found stale⟩

end Step

section Run

variable {m : Memory}

theorem edited_append (m : Memory) (edits more : List Edit) :
    m.edited (edits ++ more) = (m.edited edits).edited more := List.foldl_append

theorem Distinguished.edited (h : Distinguished m) (edits : List Edit) :
    Distinguished (m.edited edits) := by
  induction edits generalizing m with
  | nil => exact h
  | cons e rest ih => exact ih (h.apply e)

theorem distinguished_unreliable (hidden : List ChildKey) (failing : List ChildKind) :
    Distinguished (unreliable hidden failing) := by
  constructor
  · intro key c present
    cases (Table.get?_empty (ν := Child) key).symm.trans present
  · intro key key' c c' present
    cases (Table.get?_empty (ν := Child) key).symm.trans present

/-- An object of an earlier store of the run never has the version that the next write gives. -/
theorem Distinguished.unused (h : Distinguished m) (edits : List Edit) {n : Nat} {key : ChildKey}
    {c stored : Child} (earlier : (m.edited (edits.take n)).object? key = some c)
    (new : StoredAs ((m.edited edits).version + 1) stored) :
    c.metadata.resourceVersion ≠ stored.metadata.resourceVersion := by
  intro same
  obtain ⟨version, carried, _, known⟩ := (h.edited (edits.take n)).known key c earlier
  have run : m.edited edits = (m.edited (edits.take n)).edited (edits.drop n) := by
    rw [← edited_append, List.take_append_drop]
  have grown := (advances_edited (m.edited (edits.take n)) (edits.drop n)).version
  have := carried.inj new same
  rw [run] at this
  omega

/-- What was read is refused from the first edit of its key on. -/
theorem Distinguished.overtaken (h : Distinguished m) {key : ChildKey} {read : Child}
    (present : m.object? key = some read) {before : List Edit} {e : Edit}
    (hits : e.Hits (m.edited before) key) (after : List Edit) :
    (m.edited (before ++ e :: after)).Refuses read.metadata.resourceVersion := by
  obtain ⟨version, carried, _, known⟩ := h.known key read present
  have confined : Confined m version (· = key) := by
    refine ⟨known, ?_⟩
    intro other c there carries
    exact h.apart other key c read there present (carries.trans carried.symm)
  have spent := ((confined.advances (advances_edited m before)).hit hits).advances
    (advances_edited _ after)
  rw [edited_append, carried]
  exact spent.refuses

theorem create_keeps {child : Child} (error : StoreError) (failed : (m.create child).1 = .error error) :
    (m.create child).2 = m := by
  rcases create_result m child with ⟨_, refused⟩ | ⟨next, stored⟩
  · rw [refused]
  · rw [stored] at failed
    cases failed

theorem replace_keeps {child : Child} (error : StoreError) (failed : (m.replace child).1 = .error error) :
    (m.replace child).2 = m := by
  rcases replace_result m child with ⟨_, refused⟩ | ⟨next, stored⟩
  · rw [refused]
  · rw [stored] at failed
    cases failed

end Run

/-- In every run the stored objects have versions of their own, each write gives one that no object of the
run had before, what was read from a key is not replaced any more once the key was written or deleted,
and a refused creation or replacement changes nothing. -/
theorem overtaken_versions_are_refused {hidden : List ChildKey} {failing : List ChildKind}
    {edits : List Edit} {m : Memory} (run : (unreliable hidden failing).edited edits = m) :
    m.Distinguished ∧
    (∀ (e : Edit) (key : ChildKey) (stored : Child), e.stored? m = some (key, stored) →
      (e.apply m).object? key = some stored ∧
        ∀ n other c, ((unreliable hidden failing).edited (edits.take n)).object? other = some c →
          c.metadata.resourceVersion ≠ stored.metadata.resourceVersion) ∧
    (∀ key read, m.object? key = some read →
      ∀ (before : List Edit) (e : Edit) (after : List Edit), e.Hits (m.edited before) key →
        (m.edited (before ++ e :: after)).Refuses read.metadata.resourceVersion) ∧
    ∀ child,
      (∀ error, (m.create child).1 = .error error → (m.create child).2 = m) ∧
        ∀ error, (m.replace child).1 = .error error → (m.replace child).2 = m := by
  subst run
  have start := distinguished_unreliable hidden failing
  refine ⟨start.edited edits, ?_, ?_, ?_⟩
  · intro e key stored given
    obtain ⟨there, _, new⟩ := stored_as_next given
    exact ⟨there, fun n other c earlier => start.unused edits earlier new⟩
  · intro key read present before e after hits
    exact (start.edited edits).overtaken present hits after
  · exact fun child => ⟨create_keeps, replace_keeps⟩

theorem account_created_again_is_not_replaced :
    let account : Child := .serviceAccount (default : Gateway).serviceAccount
    let m := (unreliable [] []).edited [.insert account]
    let again := [Edit.delete account.key, .create account]
    ∃ read live, m.object? account.key = some read ∧ (m.edited again).object? account.key = some live ∧
      read.metadata.resourceVersion = some "1" ∧ live.metadata.resourceVersion = some "2" ∧
        ∃ error, (m.edited again).replace read = (.error error, m.edited again) := by
  intro account m again
  have run : (unreliable [] []).edited [.insert account] = m := rfl
  obtain ⟨_, _, refuses, _⟩ := overtaken_versions_are_refused run
  have present : m.object? account.key = some (admitted 1 account) := rfl
  have hits : (Edit.delete account.key).Hits (m.edited []) account.key := .inr rfl
  exact ⟨_, admitted 2 account, present, rfl, rfl, rfl,
    refuses _ _ present [] (.delete account.key) [.create account] hits _ rfl⟩

end JupyterWorkloads.Store.Memory
