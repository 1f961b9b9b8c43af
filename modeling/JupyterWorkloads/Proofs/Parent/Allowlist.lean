import JupyterWorkloads.Defaults
import Mathlib.Data.List.Basic

/-! The allowlist of a gateway loses nothing. Each name stands between two single quotes, so that a text
without names is told from one with an empty name, and a comma inside a name from one between two names. -/
namespace JupyterWorkloads

theorem allowlistChars_eq_intercalate (names : List String) : allowlistChars names =
    [','].intercalate (names.map fun name => '\'' :: name.toList ++ ['\'']) := by
  induction names with
  | nil => rfl
  | cons name rest ih =>
    cases rest with
    | nil => simp [allowlistChars]
    | cons next more =>
      rw [allowlistChars, ih]
      simp

/-- Each name stands in single quotes, with commas between. -/
theorem allowlist_eq_intercalate (names : List String) :
    allowlist names = ",".intercalate (names.map fun name => "'" ++ name ++ "'") := by
  apply String.toList_injective
  rw [allowlist, String.toList_ofList, allowlistChars_eq_intercalate, String.toList_intercalate,
    List.map_map]
  congr 2
  funext name
  simp

/-- Where what stands in front has no delimiter, the first delimiter parts the list. -/
theorem eq_of_append_delimiter {α : Type} [DecidableEq α] {delimiter : α} {front front' rest rest' : List α}
    (free : delimiter ∉ front) (free' : delimiter ∉ front')
    (same : front ++ delimiter :: rest = front' ++ delimiter :: rest') : front = front' ∧ rest = rest' := by
  have place := congrArg (List.idxOf delimiter) same
  rw [List.idxOf_append_of_notMem free, List.idxOf_append_of_notMem free', List.idxOf_cons_self,
    List.idxOf_cons_self] at place
  obtain ⟨fronts, rests⟩ := List.append_inj same (Nat.add_right_cancel place)
  exact ⟨fronts, (List.cons.inj rests).2⟩

def Unquoted (names : List String) : Prop := ∀ name ∈ names, '\'' ∉ name.toList

instance (names : List String) : Decidable (Unquoted names) :=
  inferInstanceAs (Decidable (∀ name ∈ names, '\'' ∉ name.toList))

/-- The first name ends at its closing quote, and what follows tells the names that are left. -/
theorem allowlistChars_cons_inj {name name' : String} {rest rest' : List String}
    (free : '\'' ∉ name.toList) (free' : '\'' ∉ name'.toList)
    (same : allowlistChars (name :: rest) = allowlistChars (name' :: rest')) :
    name = name' ∧ allowlistChars rest = allowlistChars rest' := by
  obtain ⟨names, later⟩ := eq_of_append_delimiter free free' (List.cons.inj same).2
  refine ⟨String.toList_injective names, ?_⟩
  cases rest with
  | nil =>
    cases rest' with
    | nil => rfl
    | cons next more => cases later
  | cons next more =>
    cases rest' with
    | nil => cases later
    | cons next' more' => exact (List.cons.inj later).2

theorem allowlistChars_inj {names names' : List String} (free : Unquoted names) (free' : Unquoted names')
    (same : allowlistChars names = allowlistChars names') : names = names' := by
  induction names generalizing names' with
  | nil =>
    cases names' with
    | nil => rfl
    | cons name' rest' => cases same
  | cons name rest ih =>
    cases names' with
    | nil => cases same
    | cons name' rest' =>
      obtain ⟨here, later⟩ := List.forall_mem_cons.mp free
      obtain ⟨here', later'⟩ := List.forall_mem_cons.mp free'
      obtain ⟨first, others⟩ := allowlistChars_cons_inj here here' same
      rw [first, ih later later' others]

theorem eq_of_allowlist {names names' : List String} (free : Unquoted names) (free' : Unquoted names')
    (same : allowlist names = allowlist names') : names = names' :=
  allowlistChars_inj free free' (String.ofList_injective same)

/-- Of lists of names without single quotes, only those with the same names in the same order have the same
allowlist. -/
theorem allowlists_agree_iff {names names' : List String} (free : Unquoted names) (free' : Unquoted names') :
    allowlist names = allowlist names' ↔ names = names' :=
  ⟨eq_of_allowlist free free', congrArg allowlist⟩

theorem commas_and_empty_names_are_told :
    allowlist [""] ≠ allowlist [] ∧ allowlist ["", ""] ≠ allowlist [","] ∧
      allowlist ["r,python"] ≠ allowlist ["r", "python"] := by
  refine ⟨?_, ?_, ?_⟩
  · exact (not_congr (allowlists_agree_iff (by decide) (by decide))).mpr (by decide)
  · exact (not_congr (allowlists_agree_iff (by decide) (by decide))).mpr (by decide)
  · exact (not_congr (allowlists_agree_iff (by decide) (by decide))).mpr (by decide)

/-- A quote in a name can make two of it. -/
example : allowlist ["r','python"] = allowlist ["r", "python"] := by decide

end JupyterWorkloads
