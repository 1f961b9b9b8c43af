import JupyterWorkloads.Pass.Memory
import JupyterWorkloads.Proofs.Child.Stored

/-! What a pass makes of each child. The outcome for one child is a function of the object that was
stored under its key, of how reliable the store is and of the next version; it stays the same while
others change the store elsewhere. A pass settles its children one by one up to the first failure. -/
namespace JupyterWorkloads.Converge

open Store Memory

theorem observe_counters (report : Report) (live : Option Child) :
    (report.observe live).created = report.created ∧ (report.observe live).updated = report.updated ∧
      (report.observe live).unchanged = report.unchanged ∧
        (report.observe live).raced = report.raced := by
  unfold Report.observe
  split <;> exact ⟨rfl, rfl, rfl, rfl⟩

/-- The result for a child that was not read, with what is stored under its key afterwards. -/
def creation (m : Memory) (version : Nat) (desired : Child) (report : Report) (slot : Option Child) :
    Except ReconcileError Report × Option Child :=
  if desired.kind ∈ m.failing then (.error (.ofStore (refusal desired 500 "InternalError")), slot)
  else match slot with
    | some live => (.ok { report with raced := report.raced + 1 }, some live)
    | none =>
      let stored := Child.created version desired
      (.ok ({ report with created := report.created + 1 }.observe (some stored)), some stored)

/-- The result for a child, with what is stored under its key afterwards. -/
def settlement (m : Memory) (version : Nat) (owner : OwnerReference) (report : Report)
    (desired : Child) : Except ReconcileError Report × Option Child :=
  match m.get desired.key with
  | none => creation m version desired report (m.object? desired.key)
  | some live =>
    if live.isConverged desired owner then
      (.ok ({ report with unchanged := report.unchanged + 1 }.observe (some live)), some live)
    else if Child.roleChanged live desired then creation m version desired report none
    else if desired.kind ∈ m.failing then
      (.error (.ofStore (refusal desired 500 "InternalError")), some live)
    else
      let stored := Child.replaced version live desired owner
      (.ok ({ report with updated := report.updated + 1 }.observe (some stored)), some stored)

section Runs

variable (owner : OwnerReference) (report : Report)

theorem create_run (desired : Child) : (create desired report).run =
    .note ⟨.info, "Creating object: " ++ desired.ref.display⟩ (.ask (.create desired) fun
      | .ok live => .done (.ok ({ report with created := report.created + 1 }.observe (some live)))
      | .error (.alreadyExists _) =>
        .note ⟨.warn, "Object was created concurrently: " ++ desired.ref.display⟩
          (.ask (.get desired.key) fun
            | .error e => .done (.error (.ofStore e))
            | .ok live => .done (.ok ({ report with raced := report.raced + 1 }.observe live)))
      | .error e =>
        .note ⟨.warn, "Failed to create object: " ++ desired.ref.display ++ ": " ++ e.message⟩
          (.done (.error (.ofStore e)))) := by
  refine congrArg (Program.note _) (congrArg (Program.ask (I := Calls) _) (funext fun answer => ?_))
  rcases answer with (_ | _ | _) | live
  · refine congrArg (Program.note _) (congrArg (Program.ask (I := Calls) _) (funext fun answer => ?_))
    rcases answer with e | live <;> rfl
  · rfl
  · rfl
  · rfl

theorem update_run (live desired : Child) : (update live desired owner report).run =
    if Child.roleChanged live desired then
      .note ⟨.info, "Recreating object with new role: " ++ desired.ref.display⟩
        (.ask (.delete desired.key) fun
          | .ok _ => (create desired report).run
          | .error e =>
            .note ⟨.warn, "Failed to delete object: " ++ desired.ref.display ++ ": " ++ e.message⟩
              (.done (.error (.ofStore e))))
    else
      .note ⟨.info, "Updating object: " ++ desired.ref.display⟩
        (.ask (.replace (Child.replacement live desired owner)) fun
          | .ok stored =>
            .done (.ok ({ report with updated := report.updated + 1 }.observe (some stored)))
          | .error e =>
            .note ⟨.warn, "Failed to update object: " ++ desired.ref.display ++ ": " ++ e.message⟩
              (.done (.error (.ofStore e)))) := by
  unfold update
  dsimp only
  split
  all_goals
    refine congrArg (Program.note _)
      (congrArg (Program.ask (I := Calls) _) (funext fun answer => ?_))
    rcases answer with e | _ <;> rfl

theorem child_run (generated : Child) : (child owner report generated).run =
    .ask (.get (generated.prepare owner).key) fun
      | .error e => .done (.error (.ofStore e))
      | .ok none => (create (generated.prepare owner) report).run
      | .ok (some live) =>
        if live.isConverged (generated.prepare owner) owner then
          .note ⟨.debug, "Object is up to date: " ++ (generated.prepare owner).ref.display⟩
            (.done (.ok ({ report with unchanged := report.unchanged + 1 }.observe (some live))))
        else (update live (generated.prepare owner) owner report).run := by
  unfold child
  refine congrArg (Program.ask (I := Calls) _) (funext fun answer => ?_)
  rcases answer with e | _ | live
  · rfl
  · rfl
  · by_cases converged : live.isConverged (generated.prepare owner) owner
    · simp only [if_pos converged]
      show ExceptT.run (ite _ _ _) = _
      rw [if_pos converged]
      rfl
    · simp only [if_neg converged]
      show ExceptT.run (ite _ _ _) = _
      rw [if_neg converged]

end Runs

section Creations

variable {m : Memory} {desired : Child} (report : Report)

theorem create_run_refused (fails : desired.kind ∈ m.failing) :
    ((create desired report).run.run handle m).value =
        .error (.ofStore (refusal desired 500 "InternalError")) ∧
      ((create desired report).run.run handle m).state = m := by
  have answer : m.handle (.create desired) = _ := create_refused fails
  rw [create_run]
  simp only [Program.run]
  rw [answer]
  exact ⟨rfl, rfl⟩

theorem create_run_free (works : desired.kind ∉ m.failing) (absent : m.object? desired.key = none) :
    ((create desired report).run.run handle m).value =
        .ok ({ report with created := report.created + 1 }.observe
          (some (.created (m.version + 1) desired))) ∧
      ((create desired report).run.run handle m).state = (m.create desired).2 := by
  have answer : m.handle (.create desired) = _ := create_free works absent
  rw [create_run, create_free works absent]
  simp only [Program.run]
  rw [answer]
  exact ⟨rfl, rfl⟩

theorem create_run_taken (works : desired.kind ∉ m.failing) {live : Child}
    (present : m.object? desired.key = some live) :
    ((create desired report).run.run handle m).value =
        .ok ({ report with raced := report.raced + 1 }.observe (m.get desired.key)) ∧
      ((create desired report).run.run handle m).state = m := by
  have answer : m.handle (.create desired) = _ := create_taken works present
  rw [create_run]
  simp only [Program.run]
  rw [answer]
  exact ⟨rfl, rfl⟩

end Creations

/-- The child of the key came out as its outcome under some new version, and nothing else that is held
steady changed. -/
def Settled (steady : ChildKey → Prop) (key : ChildKey) (m : Memory)
    (outcome : Nat → Except ReconcileError Report × Option Child)
    (result : Except ReconcileError Report) (m' : Memory) : Prop :=
  ∃ version, m.version < version ∧ (result, m'.object? key) = outcome version ∧
    Keeps (fun k => steady k ∧ k ≠ key) m m'

section Ensures

variable {steady : ChildKey → Prop} {key : ChildKey} {m m' m'' : Memory}
  {outcome : Nat → Except ReconcileError Report × Option Child}

theorem get_congr (h : m'.object? key = m.object? key) (hidden : m'.hidden = m.hidden) :
    m'.get key = m.get key := by
  rw [Memory.get, Memory.get, h, hidden]

theorem object?_of_get {live : Child} (read : m.get key = some live) : m.object? key = some live := by
  unfold Memory.get at read
  split at read
  · cases read
  · exact read

/-- At the end of a child: others have changed nothing under its key since its own last step. -/
theorem ensures_done {result : Except ReconcileError Report} {version : Nat} (held : steady key)
    (before : Keeps steady m m') (own : Keeps (· ≠ key) m' m'') (new : m.version < version)
    (out : (result, m''.object? key) = outcome version) :
    (Program.done result : Action _).Ensures handle (Keeps steady) (Settled steady key m outcome)
      m'' := by
  intro t after
  refine ⟨version, new, ?_, ?_⟩
  · rw [after.objects key held]
    exact out
  · exact ((before.mono fun _ h => h.1).trans (own.mono fun _ h => h.2)).trans
      (after.mono fun _ h => h.1)

theorem Settled.of_keeps {outcome' : Nat → Except ReconcileError Report × Option Child}
    {result : Except ReconcileError Report} (before : Keeps (fun k => steady k ∧ k ≠ key) m m')
    (same : ∀ version, outcome' version = outcome version)
    (h : Settled steady key m' outcome' result m'') : Settled steady key m outcome result m'' := by
  obtain ⟨version, new, out, after⟩ := h
  exact ⟨version, Nat.lt_of_le_of_lt before.version new, out.trans (same version),
    before.trans after⟩

theorem create_ensures (report : Report) {desired : Child} (held : steady desired.key)
    (unread : m.get desired.key = none) :
    (create desired report).run.Ensures handle (Keeps steady)
      (Settled steady desired.key m fun version =>
        creation m version desired report (m.object? desired.key)) m := by
  rw [create_run]
  intro m₁ before
  have same := before.objects desired.key held
  by_cases fails : desired.kind ∈ m.failing
  · have answer : m₁.handle (.create desired) =
        (.error (refusal desired 500 "InternalError"), m₁) :=
      create_refused (before.failing.symm ▸ fails)
    rw [answer]
    refine ensures_done held before (.refl _ _) (Nat.lt_succ_self _) ?_
    simp only [creation, if_pos fails, same]
  · have works : desired.kind ∉ m₁.failing := before.failing.symm ▸ fails
    cases found : m.object? desired.key with
    | none =>
      have answer : m₁.handle (.create desired) = _ := create_free works (same.trans found)
      rw [answer]
      refine ensures_done held before (keeps_put m₁ _ _ _)
        (Nat.lt_succ_of_le before.version) ?_
      simp only [object?_logged, object?_put, creation, if_pos, if_neg fails]
      rfl
    | some live =>
      have answer : m₁.handle (.create desired) = _ := create_taken works (same.trans found)
      rw [answer]
      intro m₂ between
      have both := before.trans between
      have missed : m₂.get desired.key = none := by
        rw [get_congr (both.objects _ held) both.hidden, unread]
      have answer : m₂.handle (.get desired.key) = (.ok none, m₂) := by
        rw [handle, missed]
      rw [answer]
      refine ensures_done held both (.refl _ _) (Nat.lt_succ_self _) ?_
      simp only [both.objects _ held, found, creation, if_neg fails]
      rfl

theorem update_ensures (owner : OwnerReference) (report : Report) {live desired : Child}
    (fresh : desired.Fresh) (held : steady desired.key) (present : m.object? desired.key = some live) :
    (update live desired owner report).run.Ensures handle (Keeps steady)
      (Settled steady desired.key m fun version =>
        if Child.roleChanged live desired then creation m version desired report none
        else if desired.kind ∈ m.failing then
          (.error (.ofStore (refusal desired 500 "InternalError")), some live)
        else
          let stored := Child.replaced version live desired owner
          (.ok ({ report with updated := report.updated + 1 }.observe (some stored)), some stored))
      m := by
  rw [update_run]
  by_cases role : Child.roleChanged live desired = true
  · simp only [if_pos role]
    intro m₁ before
    have gone : (m₁.delete desired.key).object? desired.key = none := by
      rw [object?_delete, if_pos rfl]
    have unread : (m₁.delete desired.key).get desired.key = none := by
      rw [Memory.get, gone, ite_self]
    have deleted := keeps_delete m₁ desired.key
    refine (create_ensures report held unread).mono fun result m' h => h.of_keeps ?_ ?_
    · exact (before.mono fun _ h => h.1).trans (deleted.mono fun _ h => h.2)
    · intro version
      rw [gone, creation, creation, deleted.failing, before.failing]
  · have kept : Child.roleChanged live desired = false := Bool.eq_false_iff.mpr role
    simp only [if_neg role]
    intro m₁ before
    let next := Child.replacement live desired owner
    have keys : next.key = desired.key := Child.key_replacement live owner desired
    have same := (before.objects desired.key held).trans present
    by_cases fails : desired.kind ∈ m.failing
    · have answer : m₁.handle (.replace next) = (.error (refusal next 500 "InternalError"), m₁) :=
        replace_refused (by rw [Child.kind_replacement, before.failing]; exact fails)
      rw [answer]
      refine ensures_done held before (.refl _ _) (Nat.lt_succ_self _) ?_
      simp only [if_pos fails, same, refusal, Child.ref_congr keys]
    · have works : next.kind ∉ m₁.failing := by
        rw [Child.kind_replacement, before.failing]
        exact fails
      have current : live.metadata.resourceVersion = next.metadata.resourceVersion := by
        rw [Child.metadata_replacement]
      have answer : m₁.handle (.replace next) = _ := replace_admitted works (keys ▸ same) current
        (Child.changesFixed_replacement fresh kept)
      rw [answer]
      refine ensures_done held before ((keeps_put m₁ _ _ _).mono fun _ h => keys ▸ h)
        (Nat.lt_succ_of_le before.version) ?_
      simp only [object?_logged, object?_put, if_neg fails, keys, if_pos]
      rfl

/-- A child is settled by its own requests, whatever happens to other objects between them. -/
theorem child_ensures (owner : OwnerReference) (report : Report) {generated : Child}
    (fresh : generated.Fresh) (held : steady generated.key) :
    (child owner report generated).run.Ensures handle (Keeps steady)
      (Settled steady generated.key m fun version =>
        settlement m version owner report (generated.prepare owner)) m := by
  have keys := Child.key_prepare generated owner
  rw [← keys] at held ⊢
  rw [child_run]
  intro m₁ before
  have same := before.objects _ held
  have answer : m₁.handle (.get (generated.prepare owner).key) =
      (.ok (m.get (generated.prepare owner).key), m₁) := by
    rw [handle, get_congr same before.hidden]
  rw [answer]
  cases read : m.get (generated.prepare owner).key with
  | none =>
    have unread : m₁.get (generated.prepare owner).key = none := by
      rw [get_congr same before.hidden, read]
    refine (create_ensures report held unread).mono fun result m' h => h.of_keeps ?_ ?_
    · exact before.mono fun _ h => h.1
    · intro version
      simp only [settlement, read, creation, before.failing, same]
  | some live =>
    have present : m₁.object? (generated.prepare owner).key = some live :=
      same.trans (object?_of_get read)
    by_cases converged : live.isConverged (generated.prepare owner) owner = true
    · simp only [if_pos converged]
      refine ensures_done held before (.refl _ _) (Nat.lt_succ_self _) ?_
      simp only [settlement, read, if_pos converged, present]
    · simp only [if_neg converged]
      refine (update_ensures owner report (fresh.prepare owner) held present).mono
        fun result m' h => h.of_keeps ?_ ?_
      · exact before.mono fun _ h => h.1
      · intro version
        simp only [settlement, read, if_neg converged, before.failing, creation]

end Ensures

/-- A pass settled the children in order, each from what was stored at the start, and left alone those
after the first failure. -/
inductive Passed (owner : OwnerReference) (m m' : Memory) :
    Report → List Child → Except ReconcileError Report → Prop where
  | nil {report : Report} : Passed owner m m' report [] (.ok report)
  | stop {report : Report} {c : Child} {rest : List Child} {version : Nat} {e : ReconcileError} :
      m.version < version →
      (.error e, m'.object? c.key) = settlement m version owner report (c.prepare owner) →
      (∀ other ∈ rest, m'.object? other.key = m.object? other.key) →
      Passed owner m m' report (c :: rest) (.error e)
  | step {report next : Report} {c : Child} {rest : List Child} {version : Nat}
      {result : Except ReconcileError Report} :
      m.version < version →
      (.ok next, m'.object? c.key) = settlement m version owner report (c.prepare owner) →
      Passed owner m m' next rest result →
      Passed owner m m' report (c :: rest) result

section Passed

variable {owner : OwnerReference} {m m' m'' : Memory} {report : Report} {cs : List Child}
  {result : Except ReconcileError Report}

theorem creation_congr (failing : m'.failing = m.failing) (version : Nat) (desired : Child)
    (report : Report) (slot : Option Child) :
    creation m' version desired report slot = creation m version desired report slot := by
  simp only [creation, failing]

theorem settlement_congr {desired : Child} (keeps : Keeps (· = desired.key) m m') (version : Nat)
    (owner : OwnerReference) (report : Report) :
    settlement m' version owner report desired = settlement m version owner report desired := by
  have same := keeps.objects desired.key rfl
  simp only [settlement, get_congr same keeps.hidden, same, creation_congr keeps.failing,
    keeps.failing]

/-- The outcome is the same from an earlier state that holds the same children. -/
theorem Passed.of_keeps (keeps : Keeps (fun k => ∃ c ∈ cs, c.key = k) m m')
    (h : Passed owner m' m'' report cs result) : Passed owner m m'' report cs result := by
  induction h with
  | nil => exact .nil
  | @stop report c rest version e new out others =>
    refine .stop (Nat.lt_of_le_of_lt keeps.version new) ?_ ?_
    · rw [out]
      apply settlement_congr
      exact keeps.mono fun k hk => ⟨c, List.mem_cons_self, by rw [hk, Child.key_prepare]⟩
    · intro other ho
      rw [others other ho]
      exact keeps.objects _ ⟨other, List.mem_cons_of_mem _ ho, rfl⟩
  | @step report next c rest version result new out _ ih =>
    refine .step (Nat.lt_of_le_of_lt keeps.version new) ?_ (ih ?_)
    · rw [out]
      apply settlement_congr
      exact keeps.mono fun k hk => ⟨c, List.mem_cons_self, by rw [hk, Child.key_prepare]⟩
    · refine keeps.mono ?_
      rintro k ⟨other, ho, same⟩
      exact ⟨other, List.mem_cons_of_mem _ ho, same⟩

theorem children_run_cons (owner : OwnerReference) (report : Report) (c : Child) (rest : List Child) :
    (children owner report (c :: rest)).run = (child owner report c).run.bind fun
      | .ok next => (children owner next rest).run
      | .error e => .done (.error e) := by
  refine congrArg (Program.bind _) (funext fun r => ?_)
  cases r <;> rfl

variable {steady : ChildKey → Prop}

/-- A pass settles its children while others leave them alone, and leaves alone everything else. -/
theorem children_ensures (owner : OwnerReference) (report : Report) (m : Memory)
    (fresh : ∀ c ∈ cs, c.Fresh) (held : ∀ c ∈ cs, steady c.key)
    (distinct : cs.Pairwise fun a b => a.key ≠ b.key) :
    (children owner report cs).run.Ensures handle (Keeps steady)
      (fun result m' => Passed owner m m' report cs result ∧
        Keeps (fun k => steady k ∧ ∀ c ∈ cs, k ≠ c.key) m m') m := by
  induction cs generalizing report m with
  | nil =>
    intro m' after
    exact ⟨.nil, after.mono fun _ h => h.1⟩
  | cons c rest ih =>
    have apart := List.pairwise_cons.mp distinct
    rw [children_run_cons]
    refine (child_ensures owner report (fresh c List.mem_cons_self)
      (held c List.mem_cons_self)).bind (Keeps.refl steady) ?_
    rintro r m₁ ⟨version, new, out, own⟩
    cases r with
    | error e =>
      intro m' after
      refine ⟨.stop new ?_ ?_, ?_⟩
      · rw [after.objects _ (held c List.mem_cons_self), out]
      · intro other ho
        have steady' := held other (List.mem_cons_of_mem _ ho)
        rw [after.objects _ steady', own.objects _ ⟨steady', (apart.1 other ho).symm⟩]
      · exact (own.mono fun k h => ⟨h.1, h.2 c List.mem_cons_self⟩).trans
          (after.mono fun k h => h.1)
    | ok next =>
      have tail := ih next m₁ (fun d hd => fresh d (.tail _ hd))
        (fun d hd => held d (.tail _ hd)) apart.2
      have kept : Keeps (fun k => ∃ d ∈ rest, d.key = k) m m₁ := by
        refine own.mono ?_
        rintro k ⟨d, hd, rfl⟩
        exact ⟨held d (.tail _ hd), (apart.1 d hd).symm⟩
      refine tail.mono ?_
      rintro result m' ⟨passed, after⟩
      refine ⟨.step new ?_ (passed.of_keeps kept), ?_⟩
      · rw [after.objects c.key ⟨held c List.mem_cons_self, apart.1⟩, out]
      · exact (own.mono fun k h => ⟨h.1, h.2 c List.mem_cons_self⟩).trans
          (after.mono fun k h => ⟨h.1, fun d hd => h.2 d (.tail _ hd)⟩)

end Passed

def About {α : Type} (keys : ChildKey → Prop) (p : Action α) : Prop :=
  p.Promises (fun call : Call => keys call.key) fun _ => True

def FromStore (result : Except ReconcileError Report) : Prop :=
  ∀ e, result = .error e → ∃ cause, e = .ofStore cause

theorem fromStore_ok (report : Report) : FromStore (.ok report) := by
  intro e he
  cases he

theorem fromStore_error (cause : StoreError) : FromStore (.error (.ofStore cause)) := by
  intro e he
  cases he
  exact ⟨cause, rfl⟩

section Requests

variable (owner : OwnerReference) (report : Report)

theorem create_promises {key : ChildKey} {desired : Child} (same : desired.key = key) :
    (create desired report).run.Promises (fun call : Call => call.key = key) FromStore := by
  rw [create_run]
  refine ⟨same, fun answer => ?_⟩
  rcases answer with (_ | _ | _) | live
  · refine ⟨same, fun answer => ?_⟩
    rcases answer with e | live
    · exact fromStore_error e
    · exact fromStore_ok _
  · exact fromStore_error _
  · exact fromStore_error _
  · exact fromStore_ok _

theorem update_promises {key : ChildKey} (live : Child) {desired : Child} (same : desired.key = key) :
    (update live desired owner report).run.Promises (fun call : Call => call.key = key) FromStore := by
  rw [update_run]
  split
  · refine ⟨same, fun answer => ?_⟩
    rcases answer with e | _
    · exact fromStore_error e
    · exact create_promises report same
  · refine ⟨(Child.key_replacement live owner desired).trans same, fun answer => ?_⟩
    rcases answer with e | stored
    · exact fromStore_error e
    · exact fromStore_ok _

theorem child_promises (generated : Child) :
    (child owner report generated).run.Promises (fun call : Call => call.key = generated.key) FromStore := by
  have same := Child.key_prepare generated owner
  rw [child_run]
  refine ⟨same, fun answer => ?_⟩
  rcases answer with e | _ | live
  · exact fromStore_error e
  · exact create_promises report same
  · dsimp only
    split
    · exact fromStore_ok _
    · exact update_promises owner report live same

theorem children_promises (cs : List Child) :
    (children owner report cs).run.Promises (fun call : Call => ∃ c ∈ cs, c.key = call.key) FromStore := by
  induction cs generalizing report with
  | nil => exact fromStore_ok report
  | cons c rest ih =>
    rw [children_run_cons]
    have first : (child owner report c).run.Promises
        (fun call : Call => ∃ d ∈ c :: rest, d.key = call.key) FromStore := by
      refine (child_promises owner report c).mono ?_ fun _ h => h
      intro call same
      exact ⟨c, List.mem_cons_self, same.symm⟩
    refine first.bind ?_
    intro result failed
    cases result with
    | error e => exact failed
    | ok next =>
      refine (ih next).mono ?_ fun _ h => h
      rintro call ⟨d, hd, same⟩
      exact ⟨d, List.mem_cons_of_mem _ hd, same⟩

theorem children_about (cs : List Child) :
    About (fun k => ∃ c ∈ cs, c.key = k) (children owner report cs).run :=
  (children_promises owner report cs).mono (fun _ h => h) fun _ _ => trivial

end Requests

/-- A convergence settles the generated children and leaves everything else alone. -/
theorem converge_settles {p : Parent} {set : ChildSet} (h : set.GeneratedFor p) (m : Memory)
    (owner : OwnerReference) :
    Passed owner m (m.converge owner set).state {} set.toList (m.converge owner set).value ∧
      Keeps (fun k => ∀ c ∈ set.toList, k ≠ c.key) m (m.converge owner set).state := by
  let everything : ChildKey → Prop := fun _ => True
  have ensures : (children owner {} set.toList).run.Ensures handle (Keeps everything) _ m :=
    children_ensures owner {} m (fun c hc => h.fresh hc) (fun _ _ => trivial) h.distinct
  have ends := ensures.run (Keeps.refl everything)
  exact ⟨ends.1, ends.2.mono fun _ hk => ⟨trivial, hk⟩⟩

end JupyterWorkloads.Converge
