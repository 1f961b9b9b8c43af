import JupyterWorkloads.Table

/-! A table is its content: tables that hold the same values under the same keys are equal, whatever
the order in which they were filled. A union holds the second table's value where there is one. -/
namespace JupyterWorkloads

namespace Rows

section Last

variable {κ ν : Type} [DecidableEq κ]

/-- The last value of a key. -/
def last? (key : κ) (rows : List (κ × ν)) : Option ν :=
  ((rows.filter fun row => row.1 = key).map Prod.snd).getLast?

theorem last?_cons (key : κ) (row : κ × ν) (rest : List (κ × ν)) : last? key (row :: rest) =
    (last? key rest).or (if row.1 = key then some row.2 else none) := by
  by_cases hit : row.1 = key
  · simp [last?, hit, List.getLast?_cons]
  · simp [last?, hit]

theorem mem_of_last? {key : κ} {value : ν} {rows : List (κ × ν)} (h : last? key rows = some value) :
    (key, value) ∈ rows := by
  obtain ⟨row, listed, rfl⟩ := List.mem_map.mp (List.mem_of_getLast? h)
  obtain ⟨listed, hit⟩ := List.mem_filter.mp listed
  rw [← of_decide_eq_true hit]
  exact listed

end Last

variable {κ ν : Type} [LT κ] [KeyOrder κ]

theorem Increasing.nodup {rows : List (κ × ν)} (h : Increasing rows) : rows.Nodup := by
  refine List.Pairwise.imp ?_ h
  intro a b below same
  exact KeyOrder.irrefl b.1 (same ▸ below)

variable [DecidableEq κ]

theorem mem_iff_get? {rows : List (κ × ν)} (h : Increasing rows) (row : κ × ν) :
    row ∈ rows ↔ get? row.1 rows = some row.2 :=
  ⟨get?_of_mem h, mem_of_get?⟩

theorem Increasing.ext {rows others : List (κ × ν)} (h : Increasing rows) (h' : Increasing others)
    (same : ∀ key, get? key rows = get? key others) : rows = others := by
  have perm : rows.Perm others := (List.perm_ext_iff_of_nodup h.nodup h'.nodup).mpr fun row => by
    rw [mem_iff_get? h, mem_iff_get? h', same]
  refine List.Perm.eq_of_pairwise ?_ h h' perm
  intro a b _ _ below above
  exact absurd (KeyOrder.trans below above) (KeyOrder.irrefl _)

/-- Of rows in key order, a key has at most one. -/
theorem last?_eq_get? {rows : List (κ × ν)} (h : Increasing rows) (key : κ) :
    last? key rows = get? key rows := by
  induction rows with
  | nil => rfl
  | cons row rest ih =>
    have parts := List.pairwise_cons.mp h
    rw [last?_cons, ih parts.2, get?_cons]
    by_cases hit : row.1 = key
    · have later : get? key rest = none := get?_eq_none_of_forall fun other hr same =>
        KeyOrder.irrefl _ (hit ▸ same ▸ parts.1 other hr)
      simp [hit, later]
    · simp [hit]

end Rows

namespace Table

variable {κ ν : Type} [DecidableEq κ] [LT κ] [KeyOrder κ]

theorem ext_get? {s t : Table κ ν} (same : ∀ key, s.get? key = t.get? key) : s = t :=
  eq_of_rows (Rows.Increasing.ext s.increasing t.increasing same)

variable [DecidableLT κ]

theorem get?_insertAll (t : Table κ ν) (rows : List (κ × ν)) (key : κ) :
    (t.insertAll rows).get? key = (Rows.last? key rows).or (t.get? key) := by
  induction rows generalizing t with
  | nil => rfl
  | cons row rest ih =>
    show ((t.insert row.1 row.2).insertAll rest).get? key = _
    rw [ih, get?_insert, Rows.last?_cons]
    by_cases hit : row.1 = key <;> simp [hit]

theorem get?_union (s t : Table κ ν) (key : κ) :
    (s.union t).get? key = (t.get? key).or (s.get? key) := by
  rw [union, get?_insertAll, Rows.last?_eq_get? t.increasing]
  rfl

theorem union_self (t : Table κ ν) : t.union t = t := by
  apply ext_get?
  intro key
  rw [get?_union]
  cases t.get? key <;> rfl

theorem get?_ofList (rows : List (κ × ν)) (key : κ) : (ofList rows).get? key = Rows.last? key rows := by
  rw [ofList, get?_insertAll, get?_empty, Option.or_none]

theorem ofList_rows (t : Table κ ν) : ofList t.rows = t := by
  apply ext_get?
  intro key
  rw [get?_ofList, Rows.last?_eq_get? t.increasing]
  rfl

theorem rows_insertAll (t : Table κ ν) (rows : List (κ × ν)) :
    (t.insertAll rows).rows = rows.foldl (fun done row => Rows.insert row.1 row.2 done) t.rows := by
  induction rows generalizing t with
  | nil => rfl
  | cons row rest ih => exact ih (t.insert row.1 row.2)

end Table

end JupyterWorkloads
