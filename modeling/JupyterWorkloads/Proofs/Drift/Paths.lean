import JupyterWorkloads.Proofs.Drift.Containment
import JupyterWorkloads.Proofs.Json.Path

/-! Containment path by path. One value contains another when, at every path that the other has, it
meets what the other sets there. A value that is missing is taken for null all the way down, so the two
recursions of the comparison are one: what a live value holds, and what nothing holds. -/
namespace JupyterWorkloads.Drift

open Json

def Missing (live : Option Json) : Prop := live = none ∨ live = some .null

inductive Blank : Json → Prop where
  | null : Blank .null
  | noItems : Blank (.arr [])
  | object {fields : Fields} : (∀ row ∈ fields, Blank row.2) → Blank (.obj fields)

/-- Equal scalars. A whole number never equals a floating point one, and the two zeros are equal. -/
inductive SameValue : Json → Json → Prop where
  | bool (b : Bool) : SameValue (.bool b) (.bool b)
  | int (n : Int) : SameValue (.int n) (.int n)
  | str (s : String) : SameValue (.str s) (.str s)
  | float (x : Binary64) : SameValue (.float x) (.float x)
  | zero {x y : Binary64} : x.isZero = true → y.isZero = true → SameValue (.float x) (.float y)

/-- What is live under a path meets what is desired there: a scalar asks for an equal one, a list for one
of its length, an object for an object. Nothing is enough where nothing is set. -/
def Meets (live : Option Json) : Json → Prop
  | .null => True
  | .arr [] => live = some (.arr []) ∨ Missing live
  | .arr (item :: rest) => ∃ theirs, live = some (.arr theirs) ∧ theirs.length = (item :: rest).length
  | .obj fields => (∃ theirs, live = some (.obj theirs)) ∨ (Missing live ∧ Blank (.obj fields))
  | scalar => ∃ value, live = some value ∧ SameValue value scalar

/-- What is live holds what is desired, parts included; nothing holds what is blank. -/
def Holds : Option Json → Json → Prop
  | some value, desired => contains value desired = true
  | none, desired => isBlank desired = true

section Blank

theorem fieldsBlank_iff (fields : Fields) :
    fieldsBlank fields = true ↔ ∀ row ∈ fields, isBlank row.2 = true := by
  induction fields with
  | nil => simp [fieldsBlank]
  | cons row rest ih =>
    rw [fieldsBlank, Bool.and_eq_true, ih, List.forall_mem_cons]

theorem isBlank_iff (v : Json) : isBlank v = true ↔ Blank v := by
  induction v using inductionOnParts with
  | null => exact ⟨fun _ => .null, fun _ => rfl⟩
  | scalar v leaf =>
    constructor
    · intro blank
      cases v <;> first | exact leaf.elim | cases blank
    · intro blank
      cases blank <;> exact leaf.elim
  | list items _ =>
    cases items with
    | nil => exact ⟨fun _ => .noItems, fun _ => rfl⟩
    | cons item rest => exact ⟨nofun, nofun⟩
  | object fields ih =>
    rw [isBlank, fieldsBlank_iff]
    constructor
    · intro all
      exact .object fun row hr => (ih row hr).mp (all row hr)
    · rintro ⟨⟩ row hr
      rename_i all
      exact (ih row hr).mpr (all row hr)

theorem contains_null (desired : Json) : contains .null desired = isBlank desired := by
  cases desired <;> rfl

theorem holds_missing {live : Option Json} (missing : Missing live) (desired : Json) :
    Holds live desired ↔ isBlank desired = true := by
  rcases missing with rfl | rfl
  · exact Iff.rfl
  · rw [Holds, contains_null]

end Blank

theorem sameScalar_iff (live desired : Json) : sameScalar live desired = true ↔ SameValue live desired := by
  constructor
  · intro same
    unfold sameScalar at same
    split at same
    · exact beq_iff_eq.mp same ▸ .bool _
    · exact beq_iff_eq.mp same ▸ .int _
    · rw [Binary64.numEq, Bool.or_eq_true, Bool.and_eq_true] at same
      rcases same with zeros | same
      · exact .zero zeros.1 zeros.2
      · exact beq_iff_eq.mp same ▸ .float _
    · exact beq_iff_eq.mp same ▸ .str _
    · cases same
  · intro same
    cases same with
    | zero hx hy => simp [sameScalar, Binary64.numEq, hx, hy]
    | _ => simp [sameScalar, numEq_self]

theorem holds_scalar {v : Json} (scalar : v.IsScalar) (live : Option Json) :
    Holds live v ↔ Meets live v := by
  have meets : Meets live v ↔ ∃ value, live = some value ∧ SameValue value v := by
    cases v <;> first | exact Iff.rfl | exact scalar.elim
  rw [meets]
  cases live with
  | none =>
    constructor
    · intro blank
      cases v <;> first | exact scalar.elim | cases blank
    · rintro ⟨_, ⟨⟩, _⟩
  | some value =>
    have same : contains value v = sameScalar value v := by
      cases value <;> cases v <;> first | rfl | exact scalar.elim
    rw [Holds, same, sameScalar_iff]
    constructor
    · intro h
      exact ⟨value, rfl, h⟩
    · rintro ⟨_, ⟨⟩, h⟩
      exact h

section List

theorem containsItems_iff (theirs items : List Json) : containsItems theirs items = true ↔
    theirs.length = items.length ∧
      ∀ (index : Nat) (part : Json), items[index]? = some part → Holds theirs[index]? part := by
  induction items generalizing theirs with
  | nil =>
    cases theirs with
    | nil => simp [containsItems]
    | cons _ _ => simp [containsItems]
  | cons item rest ih =>
    cases theirs with
    | nil => simp [containsItems]
    | cons first others =>
      rw [containsItems, Bool.and_eq_true, ih]
      constructor
      · rintro ⟨here, length, later⟩
        refine ⟨congrArg (· + 1) length, ?_⟩
        intro index part hi
        cases index with
        | zero =>
          cases hi
          exact here
        | succ index => exact later index part hi
      · rintro ⟨length, parts⟩
        refine ⟨parts 0 item rfl, Nat.succ.inj length, ?_⟩
        intro index part hi
        exact parts (index + 1) part hi

theorem meets_arr (theirs items : List Json) :
    Meets (some (.arr theirs)) (.arr items) ↔ theirs.length = items.length := by
  cases items <;> simp [Meets, Missing]

theorem meets_arr_missing {live : Option Json} (missing : Missing live) (items : List Json) :
    Meets live (.arr items) ↔ items = [] := by
  cases items with
  | nil => simp [Meets, missing]
  | cons item rest => rcases missing with rfl | rfl <;> simp [Meets]

theorem holds_arr (live : Option Json) (items : List Json) :
    Holds live (.arr items) ↔ Meets live (.arr items) ∧
      ∀ index part, items[index]? = some part → Holds (live.bind (·.step? (.item index))) part := by
  by_cases missing : Missing live
  · rw [holds_missing missing, meets_arr_missing missing, isBlank, List.isEmpty_iff]
    refine (and_iff_left_of_imp ?_).symm
    rintro rfl index part hi
    cases hi
  · cases live with
    | none => exact absurd (.inl rfl) missing
    | some value =>
      cases value with
      | arr theirs =>
        rw [Holds, contains, containsItems_iff, meets_arr]
        exact Iff.rfl
      | null => exact absurd (.inr rfl) missing
      | _ => cases items <;> simp [Holds, contains, sameScalar, Meets, Missing]

end List

section Object

theorem answers_iff (theirs : Fields) (row : String × Json) :
    Answers theirs row ↔ Holds (Rows.get? row.1 theirs) row.2 := by
  unfold Answers
  cases Rows.get? row.1 theirs <;> exact Iff.rfl

theorem holds_obj (live : Option Json) (fields : Fields) :
    Holds live (.obj fields) ↔ Meets live (.obj fields) ∧
      ∀ row ∈ fields, Holds (live.bind (·.step? (.field row.1))) row.2 := by
  by_cases missing : Missing live
  · -- Nothing has no members either, so each member must be blank, as the object itself.
    have nothing : ∀ name, live.bind (·.step? (.field name)) = none := by
      rcases missing with rfl | rfl <;> exact fun _ => rfl
    rw [holds_missing missing]
    simp only [nothing, Holds]
    constructor
    · intro blank
      exact ⟨.inr ⟨missing, (isBlank_iff _).mp blank⟩, (fieldsBlank_iff fields).mp blank⟩
    · rintro ⟨_, parts⟩
      exact (fieldsBlank_iff fields).mpr parts
  · cases live with
    | none => exact absurd (.inl rfl) missing
    | some value =>
      cases value with
      | obj theirs =>
        rw [Holds, contains, containsFields_iff]
        simp only [answers_iff, Meets, Option.some.injEq, Json.obj.injEq, exists_eq', true_or, true_and]
        exact Iff.rfl
      | null => exact absurd (.inr rfl) missing
      | _ => simp [Holds, contains, sameScalar, Meets, Missing]

end Object

/-- The induction is on the desired value; the live one goes down with it, or stays missing. -/
theorem holds_iff_meets (desired : Json) (live : Option Json) :
    Holds live desired ↔
      ∀ path v, desired.Occurs path v → Meets (live.bind (·.at? path)) v := by
  induction desired using inductionOnParts generalizing live with
  | null =>
    have parts : ∀ step rest w, ¬ Occurs .null (step :: rest) w := by
      intro step rest w occurs
      cases occurs
    rw [forall_occurs_leaf parts]
    cases live with
    | none => exact ⟨fun _ => trivial, fun _ => rfl⟩
    | some value => exact ⟨fun _ => trivial, fun _ => by cases value <;> rfl⟩
  | scalar v leaf =>
    have parts : ∀ step rest w, ¬ v.Occurs (step :: rest) w := by
      intro step rest w occurs
      cases occurs <;> exact leaf
    rw [forall_occurs_leaf parts, holds_scalar leaf]
    cases live <;> exact Iff.rfl
  | list items ih =>
    rw [forall_occurs_arr, holds_arr]
    refine and_congr (by cases live <;> exact Iff.rfl) ?_
    refine forall_congr' fun index => forall_congr' fun part => imp_congr_right fun hi => ?_
    rw [ih part (List.mem_of_getElem? hi)]
    simp only [Option.bind_assoc]
    exact Iff.rfl
  | object fields ih =>
    rw [forall_occurs_obj, holds_obj]
    refine and_congr (by cases live <;> exact Iff.rfl) ?_
    refine forall_congr' fun row => imp_congr_right fun hr => ?_
    rw [ih row hr]
    simp only [Option.bind_assoc]
    exact Iff.rfl

/-- A live value contains a desired one exactly when it meets, at every path of the desired value, what
is desired there. -/
theorem contains_iff_meets_at_paths (live desired : Json) :
    contains live desired = true ↔
      ∀ path v, desired.Occurs path v → Meets (live.at? path) v :=
  holds_iff_meets desired (some live)

end JupyterWorkloads.Drift
