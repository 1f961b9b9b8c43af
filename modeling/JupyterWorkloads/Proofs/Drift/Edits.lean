import Mathlib.Logic.Relation
import JupyterWorkloads.Proofs.Drift.Paths

/-! Edits that are no drift. A server fills in members that nobody asked for and leaves out those of
which nothing is asked; however many such edits there are and wherever they are made, the value still
contains the desired one. The first member that goes although something is asked of it is drift. -/
namespace JupyterWorkloads.Drift

open Json

/-- One object inside a value changed, in a way that may depend on what is desired at its place, if
anything is. -/
inductive ChangedWithin (change : Option Json → Fields → Fields → Prop) :
    Option Json → Json → Json → Prop where
  | here {desired : Option Json} {fields fields' : Fields} : change desired fields fields' →
      ChangedWithin change desired (.obj fields) (.obj fields')
  | member {desired : Option Json} {fields : Fields} {part part' : Json} (name : String) :
      Rows.get? name fields = some part →
      ChangedWithin change (desired.bind (·.step? (.field name))) part part' →
      ChangedWithin change desired (.obj fields) (.obj (Rows.insert name part' fields))
  | item {desired : Option Json} {items : List Json} {part part' : Json} (index : Nat) :
      items[index]? = some part →
      ChangedWithin change (desired.bind (·.step? (.item index))) part part' →
      ChangedWithin change desired (.arr items) (.arr (items.set index part'))

/-- What a server does to an object: it adds a member of which desired knows nothing, or drops one that
desired does not know or wants to be blank. -/
inductive ServerEdit (desired : Option Json) (fields : Fields) : Fields → Prop where
  | add (name : String) {value : Json} : value.Sorted →
      desired.bind (·.step? (.field name)) = none →
      ServerEdit desired fields (Rows.insert name value fields)
  | drop (name : String) : (∀ part, desired.bind (·.step? (.field name)) = some part → Blank part) →
      ServerEdit desired fields (Rows.erase name fields)

/-- A member goes of which desired wants something. -/
inductive Loss (desired : Option Json) (fields : Fields) : Fields → Prop where
  | drop (name : String) {part : Json} : desired.bind (·.step? (.field name)) = some part →
      ¬ Blank part → Loss desired fields (Rows.erase name fields)

section Shapes

theorem contains_of_obj (fields : Fields) (desired : Json) : contains (.obj fields) desired = true ↔
    desired = .null ∨ ∃ theirs, desired = .obj theirs ∧
      ∀ row ∈ theirs, Holds (Rows.get? row.1 fields) row.2 := by
  cases desired with
  | obj theirs =>
    rw [contains, containsFields_iff]
    simp [answers_iff]
  | _ => simp [contains, sameScalar]

theorem contains_of_arr (items : List Json) (desired : Json) : contains (.arr items) desired = true ↔
    desired = .null ∨ ∃ theirs, desired = .arr theirs ∧ items.length = theirs.length ∧
      ∀ (index : Nat) (part : Json), theirs[index]? = some part → Holds items[index]? part := by
  cases desired with
  | arr theirs =>
    rw [contains, containsItems_iff]
    simp
  | _ => simp [contains, sameScalar]

theorem contains_set {items : List Json} {index : Nat} {part part' desired : Json}
    (found : items[index]? = some part) (h : contains (.arr items) desired = true)
    (new : ∀ want, desired.step? (.item index) = some want → contains part' want = true) :
    contains (.arr (items.set index part')) desired = true := by
  rw [contains_of_arr] at h ⊢
  rcases h with rfl | ⟨theirs, rfl, length, parts⟩
  · exact .inl rfl
  · refine .inr ⟨theirs, rfl, by rw [List.length_set, length], ?_⟩
    intro other want wanted
    by_cases same : index = other
    · subst same
      have inside : index < items.length := (List.getElem?_eq_some_iff.mp found).1
      rw [List.getElem?_set_self inside]
      exact new want wanted
    · rw [List.getElem?_set_ne same]
      exact parts other want wanted

theorem contains_slot {fields fields' : Fields} {desired : Json} (name : String) (sorted : desired.Sorted)
    (others : ∀ other, name ≠ other → Rows.get? other fields' = Rows.get? other fields)
    (h : contains (.obj fields) desired = true)
    (slot : ∀ want, desired.step? (.field name) = some want → Holds (Rows.get? name fields') want) :
    contains (.obj fields') desired = true := by
  rw [contains_of_obj] at h ⊢
  rcases h with rfl | ⟨theirs, rfl, parts⟩
  · exact .inl rfl
  · refine .inr ⟨theirs, rfl, ?_⟩
    intro row hr
    by_cases same : name = row.1
    · subst same
      exact slot row.2 (Rows.get?_of_mem ((sorted_obj theirs).mp sorted).1 hr)
    · rw [others row.1 same]
      exact parts row hr

end Shapes

section Steps

variable {desired? : Option Json} {live live' : Json}

theorem ChangedWithin.sorted {change : Option Json → Fields → Fields → Prop}
    (keeps : ∀ desired fields fields', change desired fields fields' → (obj fields).Sorted →
      (obj fields').Sorted) (h : ChangedWithin change desired? live live') (sorted : live.Sorted) :
    live'.Sorted := by
  induction h with
  | here edit => exact keeps _ _ _ edit sorted
  | member name found _ ih => exact sorted.insert (ih (sorted.step? (.field name) found))
  | @item desired items part part' index found _ ih =>
    have new := ih (sorted.step? (.item index) found)
    rw [sorted_arr] at sorted ⊢
    intro other ho
    rcases List.mem_or_eq_of_mem_set ho with old | rfl
    · exact sorted other old
    · exact new

theorem ServerEdit.sorted (desired : Option Json) (fields fields' : Fields)
    (h : ServerEdit desired fields fields') (sorted : (obj fields).Sorted) : (obj fields').Sorted := by
  cases h with
  | add _ value _ => exact sorted.insert value
  | drop name _ => exact sorted.erase name

theorem ServerEdit.still_contains {fields fields' : Fields} {desired : Json}
    (h : ServerEdit (some desired) fields fields') (order : Rows.Increasing fields)
    (sorted : desired.Sorted) (before : contains (.obj fields) desired = true) :
    contains (.obj fields') desired = true := by
  cases h with
  | add name _ unknown =>
    refine contains_slot name sorted ?_ before ?_
    · intro other apart
      rw [Rows.get?_insert, if_neg apart]
    · intro want wanted
      cases wanted.symm.trans unknown
  | drop name blank =>
    refine contains_slot name sorted ?_ before ?_
    · intro other apart
      rw [Rows.get?_erase order, if_neg apart]
    · intro want wanted
      rw [Rows.get?_erase order, if_pos rfl]
      exact (isBlank_iff want).mpr (blank want wanted)

/-- One step: an edit keeps what the value contains. The induction goes down to the object that is edited;
where nothing is desired any more, nothing can be lost. -/
theorem ChangedWithin.still_contains (h : ChangedWithin ServerEdit desired? live live') (order : live.Sorted)
    {desired : Json} (given : desired? = some desired) (sorted : desired.Sorted)
    (before : contains live desired = true) : contains live' desired = true := by
  induction h generalizing desired with
  | here edit =>
    subst given
    exact edit.still_contains ((sorted_obj _).mp order).1 sorted before
  | @member _ fields part part' name found _ ih =>
    subst given
    refine contains_slot name sorted ?_ before ?_
    · intro other apart
      rw [Rows.get?_insert, if_neg apart]
    · intro want wanted
      rw [Rows.get?_insert, if_pos rfl]
      refine ih (order.step? (.field name) found) wanted (sorted.step? _ wanted) ?_
      rw [contains_of_obj] at before
      rcases before with rfl | ⟨theirs, rfl, parts⟩
      · cases wanted
      · have held := parts _ (Rows.mem_of_get? wanted)
        rw [found] at held
        exact held
  | @item _ items part part' index found _ ih =>
    subst given
    refine contains_set found before ?_
    intro want wanted
    refine ih (order.step? (.item index) found) wanted (sorted.step? _ wanted) ?_
    rw [contains_of_arr] at before
    rcases before with rfl | ⟨theirs, rfl, _, parts⟩
    · cases wanted
    · have held := parts index want wanted
      rw [found] at held
      exact held

theorem ChangedWithin.drifts (h : ChangedWithin Loss desired? live live') (order : live.Sorted) :
    ∃ desired, desired? = some desired ∧ contains live' desired = false := by
  induction h with
  | @here desired? fields fields' loss =>
    rcases loss with @⟨name, part, wanted, solid⟩
    obtain ⟨desired, given, step⟩ := Option.bind_eq_some_iff.mp wanted
    refine ⟨desired, given, Bool.eq_false_iff.mpr fun held => ?_⟩
    rw [contains_of_obj] at held
    rcases held with rfl | ⟨theirs, rfl, parts⟩
    · cases step
    · have slot := parts _ (Rows.mem_of_get? step)
      rw [Rows.get?_erase ((sorted_obj fields).mp order).1, if_pos rfl] at slot
      exact solid ((isBlank_iff part).mp slot)
  | @member desired? fields part part' name found _ ih =>
    obtain ⟨want, wanted, drift⟩ := ih (order.step? (.field name) found)
    obtain ⟨desired, given, step⟩ := Option.bind_eq_some_iff.mp wanted
    refine ⟨desired, given, Bool.eq_false_iff.mpr fun held => ?_⟩
    rw [contains_of_obj] at held
    rcases held with rfl | ⟨theirs, rfl, parts⟩
    · cases step
    · have slot := parts _ (Rows.mem_of_get? step)
      rw [Rows.get?_insert, if_pos rfl] at slot
      cases drift.symm.trans slot
  | @item desired? items part part' index found _ ih =>
    obtain ⟨want, wanted, drift⟩ := ih (order.step? (.item index) found)
    obtain ⟨desired, given, step⟩ := Option.bind_eq_some_iff.mp wanted
    refine ⟨desired, given, Bool.eq_false_iff.mpr fun held => ?_⟩
    rw [contains_of_arr] at held
    rcases held with rfl | ⟨theirs, rfl, _, parts⟩
    · cases step
    · have inside : index < items.length := (List.getElem?_eq_some_iff.mp found).1
      have slot := parts index want step
      rw [List.getElem?_set_self inside] at slot
      cases drift.symm.trans slot

end Steps

theorem edited_contains {desired live : Json} (sorted : desired.Sorted)
    (edited : Relation.ReflTransGen (ChangedWithin ServerEdit (some desired)) desired live) :
    live.Sorted ∧ contains live desired = true := by
  induction edited with
  | refl => exact ⟨sorted, contains_self desired sorted⟩
  | tail _ edit ih =>
    exact ⟨edit.sorted ServerEdit.sorted ih.1, edit.still_contains ih.1 rfl sorted ih.2⟩

/-- What a server edits of a value, as often as it likes, still contains the value; but let one member go of
which something is desired, and it does not. -/
theorem server_edits_are_no_drift {desired live : Json} (sorted : desired.Sorted)
    (edited : Relation.ReflTransGen (ChangedWithin ServerEdit (some desired)) desired live) :
    contains live desired = true ∧
      ∀ live', ChangedWithin Loss (some desired) live live' → contains live' desired = false := by
  obtain ⟨order, holds⟩ := edited_contains sorted edited
  refine ⟨holds, fun live' lost => ?_⟩
  obtain ⟨_, given, drift⟩ := lost.drifts order
  cases given
  exact drift

theorem port_is_filled_in :
    let port := Json.obj [("name", .str "http")]
    let desired := Json.obj [("env", .arr []), ("ports", .arr [port])]
    let filled := Json.obj [("name", .str "http"), ("protocol", .str "TCP")]
    let status := Json.obj [("phase", .str "Running")]
    let live := Json.obj [("ports", .arr [filled]), ("status", status)]
    let nameless := Json.obj [("protocol", .str "TCP")]
    contains live desired = true ∧
      contains (.obj [("ports", .arr [nameless]), ("status", status)]) desired = false := by
  intro port desired filled status live nameless
  have names : "env" < "ports" := by decide
  have sorted : desired.Sorted :=
    ⟨List.pairwise_pair.mpr names, trivial, ⟨⟨List.pairwise_singleton _ _, trivial, trivial⟩, trivial⟩, trivial⟩
  have protocol : ChangedWithin ServerEdit (some desired) desired
      (.obj [("env", .arr []), ("ports", .arr [filled])]) :=
    .member "ports" rfl (.item 0 rfl (.here (.add "protocol" trivial rfl)))
  have environment : ChangedWithin ServerEdit (some desired)
      (.obj [("env", .arr []), ("ports", .arr [filled])]) (.obj [("ports", .arr [filled])]) :=
    .here (.drop "env" fun part wanted => Option.some.inj wanted ▸ Blank.noItems)
  have empty : ChangedWithin ServerEdit (some desired) (.obj [("ports", .arr [filled])])
      (.obj [("ports", .arr [filled]), ("status", .obj [])]) :=
    .here (.add "status" ⟨.nil, trivial⟩ rfl)
  have phase : ChangedWithin ServerEdit (some desired)
      (.obj [("ports", .arr [filled]), ("status", .obj [])]) live :=
    .member "status" rfl (.here (.add "phase" trivial rfl))
  have edited : Relation.ReflTransGen (ChangedWithin ServerEdit (some desired)) desired live :=
    (((Relation.ReflTransGen.single protocol).tail environment).tail empty).tail phase
  obtain ⟨holds, drifts⟩ := server_edits_are_no_drift sorted edited
  refine ⟨holds, drifts _ ?_⟩
  exact .member "ports" rfl (.item 0 rfl (.here (.drop "name" rfl nofun)))

end JupyterWorkloads.Drift
