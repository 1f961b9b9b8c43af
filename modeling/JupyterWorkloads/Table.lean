/-! Finite maps as rows in increasing key order. Two tables with the same content are the same
table, so equality of stored states can be stated as plain equality. -/
namespace JupyterWorkloads

/-- A strict total order on keys. -/
class KeyOrder (κ : Type) [LT κ] : Prop where
  irrefl : ∀ a : κ, ¬ a < a
  trans : ∀ {a b c : κ}, a < b → b < c → a < c
  connected : ∀ {a b : κ}, ¬ a < b → ¬ b < a → a = b

instance : KeyOrder String where
  irrefl := String.lt_irrefl
  trans := String.lt_trans
  connected h h' := String.le_antisymm (String.not_lt.mp h') (String.not_lt.mp h)

namespace Rows

variable {κ ν : Type} [DecidableEq κ]

def get? (key : κ) : List (κ × ν) → Option ν
  | [] => none
  | (k, v) :: rest => if k = key then some v else get? key rest

def erase (key : κ) : List (κ × ν) → List (κ × ν)
  | [] => []
  | (k, v) :: rest => if k = key then rest else (k, v) :: erase key rest

@[simp] theorem get?_nil (key : κ) : get? key ([] : List (κ × ν)) = none := rfl

theorem get?_cons (key k : κ) (v : ν) (rest : List (κ × ν)) :
    get? key ((k, v) :: rest) = if k = key then some v else get? key rest := rfl

theorem mem_erase {key : κ} {rows : List (κ × ν)} {row : κ × ν}
    (h : row ∈ erase key rows) : row ∈ rows := by
  induction rows with
  | nil => exact h
  | cons head rest ih =>
    obtain ⟨k, v⟩ := head
    simp only [erase] at h
    split at h
    · exact List.mem_cons_of_mem _ h
    · rcases List.mem_cons.mp h with h | h
      · exact h ▸ List.mem_cons_self
      · exact List.mem_cons_of_mem _ (ih h)

theorem get?_eq_none_of_forall {key : κ} {rows : List (κ × ν)}
    (h : ∀ row ∈ rows, row.1 ≠ key) : get? key rows = none := by
  induction rows with
  | nil => rfl
  | cons head rest ih =>
    rw [get?_cons, if_neg (h head List.mem_cons_self)]
    exact ih fun row hr => h row (List.mem_cons_of_mem _ hr)

theorem mem_of_get? {key : κ} {value : ν} {rows : List (κ × ν)}
    (h : get? key rows = some value) : (key, value) ∈ rows := by
  induction rows with
  | nil => cases h
  | cons head rest ih =>
    obtain ⟨k, v⟩ := head
    rw [get?_cons] at h
    split at h
    · rename_i hit
      cases h
      exact hit ▸ List.mem_cons_self
    · exact List.mem_cons_of_mem _ (ih h)

variable [LT κ]

def Increasing (rows : List (κ × ν)) : Prop := rows.Pairwise fun a b => a.1 < b.1

theorem Increasing.erase {rows : List (κ × ν)} (h : Increasing rows) (key : κ) :
    Increasing (erase key rows) := by
  induction rows with
  | nil => exact h
  | cons head rest ih =>
    obtain ⟨k, v⟩ := head
    have parts := List.pairwise_cons.mp h
    simp only [Rows.erase]
    split
    · exact parts.2
    · exact List.pairwise_cons.mpr ⟨fun row hr => parts.1 row (mem_erase hr), ih parts.2⟩

theorem get?_erase [KeyOrder κ] {rows : List (κ × ν)} (h : Increasing rows) (key other : κ) :
    get? other (erase key rows) = if key = other then none else get? other rows := by
  induction rows with
  | nil => simp [erase]
  | cons head rest ih =>
    obtain ⟨k, v⟩ := head
    have parts := List.pairwise_cons.mp h
    simp only [erase]
    split
    · rename_i hit
      by_cases hko : key = other
      · rw [if_pos hko]
        refine get?_eq_none_of_forall fun row hr heq => ?_
        have := parts.1 row hr
        rw [heq, ← hko, ← hit] at this
        exact KeyOrder.irrefl _ this
      · rw [if_neg hko, get?_cons, if_neg (hit ▸ hko)]
    · rename_i miss
      rw [get?_cons, ih parts.2, get?_cons]
      by_cases hk : k = other
      · have : key ≠ other := fun hko => miss (hk.trans hko.symm)
        simp [hk, this]
      · simp [hk]

theorem get?_of_mem [KeyOrder κ] {rows : List (κ × ν)} (h : Increasing rows) {key : κ} {value : ν}
    (hm : (key, value) ∈ rows) : get? key rows = some value := by
  induction rows with
  | nil => cases hm
  | cons head rest ih =>
    obtain ⟨k, v⟩ := head
    have parts := List.pairwise_cons.mp h
    rw [get?_cons]
    rcases List.mem_cons.mp hm with hm | hm
    · cases hm
      simp
    · have : k ≠ key := fun hk => KeyOrder.irrefl key (by simpa [hk] using parts.1 _ hm)
      rw [if_neg this]
      exact ih parts.2 hm

variable [DecidableLT κ]

/-- Replaces the row of the key, or adds one at its place in the order. -/
def insert (key : κ) (value : ν) : List (κ × ν) → List (κ × ν)
  | [] => [(key, value)]
  | (k, v) :: rest =>
    if k < key then (k, v) :: insert key value rest
    else if k = key then (key, value) :: rest
    else (key, value) :: (k, v) :: rest

theorem mem_insert {key : κ} {value : ν} {rows : List (κ × ν)} {row : κ × ν}
    (h : row ∈ insert key value rows) : row = (key, value) ∨ row ∈ rows := by
  induction rows with
  | nil => exact Or.inl (List.mem_singleton.mp h)
  | cons head rest ih =>
    obtain ⟨k, v⟩ := head
    simp only [insert] at h
    split at h
    · rcases List.mem_cons.mp h with h | h
      · exact Or.inr (h ▸ List.mem_cons_self)
      · exact (ih h).imp id (List.mem_cons_of_mem _)
    · split at h
      · rcases List.mem_cons.mp h with h | h
        · exact Or.inl h
        · exact Or.inr (List.mem_cons_of_mem _ h)
      · rcases List.mem_cons.mp h with h | h
        · exact Or.inl h
        · exact Or.inr h

theorem Increasing.insert [KeyOrder κ] {rows : List (κ × ν)} (h : Increasing rows)
    (key : κ) (value : ν) : Increasing (insert key value rows) := by
  induction rows with
  | nil => exact List.pairwise_singleton _ _
  | cons head rest ih =>
    obtain ⟨k, v⟩ := head
    have parts := List.pairwise_cons.mp h
    simp only [Rows.insert]
    split
    · rename_i below
      refine List.pairwise_cons.mpr ⟨fun row hr => ?_, ih parts.2⟩
      rcases mem_insert hr with hr | hr
      · exact hr ▸ below
      · exact parts.1 row hr
    · rename_i above
      split
      · rename_i hit
        exact List.pairwise_cons.mpr ⟨fun row hr => hit ▸ parts.1 row hr, parts.2⟩
      · rename_i miss
        have before : key < k := Classical.byContradiction fun h' =>
          miss (KeyOrder.connected above h')
        refine List.pairwise_cons.mpr ⟨fun row hr => ?_, h⟩
        rcases List.mem_cons.mp hr with hr | hr
        · exact hr ▸ before
        · exact KeyOrder.trans before (parts.1 row hr)

theorem get?_insert [KeyOrder κ] (key other : κ) (value : ν) (rows : List (κ × ν)) :
    get? other (insert key value rows) = if key = other then some value else get? other rows := by
  induction rows with
  | nil => rfl
  | cons head rest ih =>
    obtain ⟨k, v⟩ := head
    simp only [insert]
    split
    · rename_i below
      rw [get?_cons, ih, get?_cons]
      by_cases hk : k = other
      · have : key ≠ other := fun hko => KeyOrder.irrefl other (by simpa [hk, hko] using below)
        simp [hk, this]
      · simp [hk]
    · split
      · rename_i hit
        rw [get?_cons, get?_cons]
        by_cases hko : key = other
        · simp [hko]
        · simp [hko, hit]
      · rw [get?_cons]

end Rows

structure Table (κ ν : Type) [LT κ] where
  rows : List (κ × ν)
  increasing : rows.Pairwise fun a b => a.1 < b.1

namespace Table

variable {κ ν : Type} [LT κ]

theorem eq_of_rows {s t : Table κ ν} (h : s.rows = t.rows) : s = t := by
  cases s
  cases t
  cases h
  rfl

instance [DecidableEq κ] [DecidableEq ν] : DecidableEq (Table κ ν) := fun s t =>
  if h : s.rows = t.rows then isTrue (eq_of_rows h) else isFalse fun e => h (e ▸ rfl)

instance : EmptyCollection (Table κ ν) := ⟨⟨[], List.Pairwise.nil⟩⟩

instance : Inhabited (Table κ ν) := ⟨∅⟩

def keys (t : Table κ ν) : List κ := t.rows.map Prod.fst

def size (t : Table κ ν) : Nat := t.rows.length

variable [DecidableEq κ]

def get? (t : Table κ ν) (key : κ) : Option ν := Rows.get? key t.rows

def contains (t : Table κ ν) (key : κ) : Bool := (t.get? key).isSome

@[simp] theorem get?_empty (key : κ) : (∅ : Table κ ν).get? key = none := rfl

def erase (t : Table κ ν) (key : κ) : Table κ ν where
  rows := Rows.erase key t.rows
  increasing := Rows.Increasing.erase t.increasing key

@[simp] theorem get?_erase [KeyOrder κ] (t : Table κ ν) (key other : κ) :
    (t.erase key).get? other = if key = other then none else t.get? other :=
  Rows.get?_erase t.increasing key other

theorem get?_eq_some_iff [KeyOrder κ] (t : Table κ ν) (key : κ) (value : ν) :
    t.get? key = some value ↔ (key, value) ∈ t.rows :=
  ⟨Rows.mem_of_get?, Rows.get?_of_mem t.increasing⟩

variable [DecidableLT κ]

def insert [KeyOrder κ] (t : Table κ ν) (key : κ) (value : ν) : Table κ ν where
  rows := Rows.insert key value t.rows
  increasing := Rows.Increasing.insert t.increasing key value

/-- Adds rows one after the other, so the last value of a key stays. -/
def insertAll [KeyOrder κ] (t : Table κ ν) (rows : List (κ × ν)) : Table κ ν :=
  rows.foldl (fun t row => t.insert row.1 row.2) t

def ofList [KeyOrder κ] (rows : List (κ × ν)) : Table κ ν := insertAll ∅ rows

/-- Both tables, with the second one's values where they share a key. -/
def union [KeyOrder κ] (s t : Table κ ν) : Table κ ν := s.insertAll t.rows

@[simp] theorem get?_insert [KeyOrder κ] (t : Table κ ν) (key other : κ) (value : ν) :
    (t.insert key value).get? other = if key = other then some value else t.get? other :=
  Rows.get?_insert key other value t.rows

end Table

abbrev StringTable := Table String String

end JupyterWorkloads
