import JupyterWorkloads.Proofs.Converge.Fixpoint

/-! How a pass over any children goes on any store, whatever reads miss and whatever cannot be written. The
children before the one that stopped it were each found as they should be, created, created again,
replaced or left to another writer; of the later ones nothing was touched. An object that reads miss is
never touched either. -/
namespace JupyterWorkloads.Converge

open Store Memory

/-- What a pass did about a child that did not stop it. -/
inductive Treatment where
  | unchanged
  | created
  /-- Deleted, since its role cannot be replaced, and created again. -/
  | recreated
  | replaced
  /-- Left to another writer, whose object reads miss. -/
  | raced
  deriving DecidableEq

def Treatment.writes (c : Child) : Treatment → List Write
  | unchanged => []
  | created => [.create c.kind c.name]
  | recreated => [.delete c.kind c.name, .create c.kind c.name]
  | replaced => [.replace c.kind c.name]
  | raced => []

/-- The pass went on after a child, having treated it so. -/
inductive Treated (owner : OwnerReference) (c : Child) (m : Memory) : Treatment → Memory → Prop where
  | unchanged {live : Child} : m.get c.key = some live →
      live.isConverged (c.prepare owner) owner = true → Treated owner c m .unchanged m
  | created : m.object? c.key = none → c.kind ∉ m.failing →
      Treated owner c m .created (m.create (c.prepare owner)).2
  | recreated {live : Child} : m.get c.key = some live →
      Child.roleChanged live (c.prepare owner) = true → c.kind ∉ m.failing →
      Treated owner c m .recreated ((m.delete c.key).create (c.prepare owner)).2
  | replaced {live stored : Child} {m' : Memory} : m.get c.key = some live →
      m.replace (Child.replacement live (c.prepare owner) owner) = (.ok stored, m') →
      Treated owner c m .replaced m'
  | raced {live : Child} : c.key ∈ m.hidden → m.object? c.key = some live → c.kind ∉ m.failing →
      Treated owner c m .raced m

/-- The pass stopped at a child: a write was refused. Only a binding may be gone by then. -/
inductive Stopped (owner : OwnerReference) (c : Child) (m : Memory) : StoreError → Memory → Prop where
  | creation : m.get c.key = none → c.kind ∈ m.failing →
      Stopped owner c m (refusal (c.prepare owner) 500 "InternalError") m
  | replacement {live : Child} {e : StoreError} : m.get c.key = some live →
      m.replace (Child.replacement live (c.prepare owner) owner) = (.error e, m) →
      Stopped owner c m e m
  | recreation {live : Child} : m.get c.key = some live →
      Child.roleChanged live (c.prepare owner) = true → c.kind ∈ m.failing →
      Stopped owner c m (refusal (c.prepare owner) 500 "InternalError") (m.delete c.key)

/-- The treatments of children, one after the other. -/
inductive Ran (owner : OwnerReference) : Memory → List (Child × Treatment) → Memory → Prop where
  | nil {m : Memory} : Ran owner m [] m
  | cons {m m₁ m' : Memory} {c : Child} {t : Treatment} {steps : List (Child × Treatment)} :
      Treated owner c m t m₁ → Ran owner m₁ steps m' → Ran owner m ((c, t) :: steps) m'

/-- The second report counts the treatments on top of the first. -/
structure Tallied (before : Report) (steps : List (Child × Treatment)) (after : Report) : Prop where
  unchanged : after.unchanged = before.unchanged + steps.countP (·.2 = .unchanged)
  created : after.created = before.created + steps.countP fun s => s.2 = .created ∨ s.2 = .recreated
  updated : after.updated = before.updated + steps.countP (·.2 = .replaced)
  raced : after.raced = before.raced + steps.countP (·.2 = .raced)

section Treated

variable {owner : OwnerReference} {c : Child} {m m' : Memory} {t : Treatment} {e : StoreError}

theorem writes_delete {key : ChildKey} {live : Child} (present : m.object? key = some live) :
    (m.delete key).writes = m.writes ++ [.delete key.kind key.name] := by
  unfold Memory.delete
  rw [contains_eq, present]
  rfl

theorem writes_create {child : Child} (works : child.kind ∉ m.failing)
    (absent : m.object? child.key = none) :
    (m.create child).2.writes = m.writes ++ [.create child.kind child.name] := by
  rw [create_free works absent]
  rfl

theorem writes_replace {child stored : Child} (done : m.replace child = (.ok stored, m')) :
    m'.writes = m.writes ++ [.replace child.kind child.name] := by
  rcases replace_result m child with ⟨e, refused⟩ | ⟨next, put⟩
  · cases done.symm.trans refused
  · have state : m' = _ := congrArg Prod.snd (done.symm.trans put)
    rw [state]
    rfl

theorem name_prepare (c : Child) (owner : OwnerReference) : (c.prepare owner).name = c.name :=
  congrArg ChildKey.name (Child.key_prepare c owner)

theorem free_of_delete (owner : OwnerReference) (works : c.kind ∉ m.failing) :
    (c.prepare owner).kind ∉ (m.delete c.key).failing ∧
      (m.delete c.key).object? (c.prepare owner).key = none := by
  rw [(keeps_delete m c.key).failing, Child.kind_prepare, Child.key_prepare, object?_delete, if_pos rfl]
  exact ⟨works, rfl⟩

theorem Treated.keeps (h : Treated owner c m t m') : Keeps (· ≠ c.key) m m' := by
  cases h with
  | unchanged _ _ => exact .refl _ m
  | created _ _ => exact Child.key_prepare c owner ▸ keeps_create m (c.prepare owner)
  | recreated _ _ _ =>
    exact (keeps_delete m c.key).trans
      (Child.key_prepare c owner ▸ keeps_create (m.delete c.key) (c.prepare owner))
  | @replaced live stored _ _ done =>
    have keys : (Child.replacement live (c.prepare owner) owner).key = c.key :=
      (Child.key_replacement live owner _).trans (Child.key_prepare c owner)
    have kept := keeps_replace m (Child.replacement live (c.prepare owner) owner)
    rw [done, keys] at kept
    exact kept
  | raced _ _ _ => exact .refl _ m

theorem Treated.writes (h : Treated owner c m t m') : m'.writes = m.writes ++ t.writes c := by
  have key := Child.key_prepare c owner
  have kind : (c.prepare owner).kind = c.kind := Child.kind_prepare c owner
  have name := name_prepare c owner
  cases h with
  | unchanged _ _ => exact (List.append_nil _).symm
  | created absent works =>
    rw [writes_create (kind ▸ works) (key ▸ absent), kind, name]
    rfl
  | recreated read _ works =>
    obtain ⟨works', gone⟩ := free_of_delete owner works
    rw [writes_create works' gone, writes_delete (object?_of_get read), kind, name, List.append_assoc]
    rfl
  | @replaced live stored _ _ done =>
    have keys : (Child.replacement live (c.prepare owner) owner).name = (c.prepare owner).name :=
      congrArg ChildKey.name (Child.key_replacement live owner _)
    rw [writes_replace done, Child.kind_replacement, kind, keys, name]
    rfl
  | raced _ _ _ => exact (List.append_nil _).symm

theorem Treated.of_hidden (h : Treated owner c m t m') (hidden : c.key ∈ m.hidden) {live : Child}
    (present : m.object? c.key = some live) : t = .raced ∧ m' = m := by
  have missed : m.get c.key = none := if_pos hidden
  cases h with
  | unchanged read _ => cases missed.symm.trans read
  | created absent _ => cases absent.symm.trans present
  | recreated read _ _ => cases missed.symm.trans read
  | replaced read _ => cases missed.symm.trans read
  | raced _ _ _ => exact ⟨rfl, rfl⟩

theorem Stopped.keeps (h : Stopped owner c m e m') : Keeps (· ≠ c.key) m m' := by
  cases h with
  | creation _ _ => exact .refl _ m
  | replacement _ _ => exact .refl _ m
  | recreation _ _ _ => exact keeps_delete m c.key

theorem Stopped.writes (h : Stopped owner c m e m') :
    m'.writes = m.writes ∨ m'.writes = m.writes ++ [.delete c.kind c.name] := by
  cases h with
  | creation _ _ => exact .inl rfl
  | replacement _ _ => exact .inl rfl
  | recreation read _ _ => exact .inr (writes_delete (object?_of_get read))

theorem Stopped.of_hidden (h : Stopped owner c m e m') (hidden : c.key ∈ m.hidden) :
    c.kind ∈ m.failing ∧ m' = m := by
  have missed : m.get c.key = none := if_pos hidden
  cases h with
  | creation _ fails => exact ⟨fails, rfl⟩
  | replacement read _ => cases missed.symm.trans read
  | recreation read _ _ => cases missed.symm.trans read

end Treated

section Ran

variable {owner : OwnerReference} {m m' : Memory} {steps : List (Child × Treatment)}

theorem Ran.keeps (h : Ran owner m steps m') : Keeps (fun k => ∀ s ∈ steps, s.1.key ≠ k) m m' := by
  induction h with
  | nil => exact .refl _ _
  | cons first _ ih =>
    refine (first.keeps.mono fun k apart => ?_).trans (ih.mono fun k apart s hs => ?_)
    · exact (apart _ List.mem_cons_self).symm
    · exact apart s (List.mem_cons_of_mem _ hs)

theorem Ran.writes (h : Ran owner m steps m') :
    m'.writes = m.writes ++ steps.flatMap fun s => s.2.writes s.1 := by
  induction h with
  | nil => exact (List.append_nil _).symm
  | cons first _ ih => rw [ih, first.writes, List.append_assoc, List.flatMap_cons]

theorem Ran.of_hidden (h : Ran owner m steps m') {key : ChildKey} (hidden : key ∈ m.hidden)
    {live : Child} (present : m.object? key = some live) :
    m'.object? key = some live ∧ ∀ s ∈ steps, s.1.key = key → s.2 = .raced := by
  induction h with
  | nil => exact ⟨present, fun s hs => absurd hs List.not_mem_nil⟩
  | @cons m m₁ m' c t steps first rest ih =>
    have hidden' : key ∈ m₁.hidden := first.keeps.hidden ▸ hidden
    by_cases same : c.key = key
    · subst same
      obtain ⟨raced, kept⟩ := first.of_hidden hidden present
      obtain ⟨after, others⟩ := ih hidden' (kept ▸ present)
      refine ⟨after, fun s hs => ?_⟩
      rcases List.mem_cons.mp hs with rfl | later
      · exact fun _ => raced
      · exact others s later
    · have present' : m₁.object? key = some live := (first.keeps.objects key (Ne.symm same)).trans present
      obtain ⟨after, others⟩ := ih hidden' present'
      refine ⟨after, fun s hs here => ?_⟩
      rcases List.mem_cons.mp hs with rfl | later
      · exact absurd here same
      · exact others s later here

end Ran

section Tallied

variable {owner : OwnerReference} {c : Child} {t : Treatment} {steps : List (Child × Treatment)}
  {before next after : Report}

theorem Tallied.refl (report : Report) : Tallied report [] report := ⟨rfl, rfl, rfl, rfl⟩

theorem Tallied.cons (first : Tallied before [(c, t)] next) (rest : Tallied next steps after) :
    Tallied before ((c, t) :: steps) after := by
  obtain ⟨unchanged, created, updated, raced⟩ := first
  obtain ⟨unchanged', created', updated', raced'⟩ := rest
  simp only [List.countP_cons, List.countP_nil] at *
  constructor <;> simp only [List.countP_cons] <;> omega

theorem Tallied.observe (h : Tallied before steps after) (live : Option Child) :
    Tallied before steps (after.observe live) := by
  obtain ⟨created, updated, unchanged, raced⟩ := observe_counters after live
  exact ⟨unchanged.trans h.unchanged, created.trans h.created, updated.trans h.updated, raced.trans h.raced⟩

end Tallied

/-- What became of one child: it was treated, which the report counts, or the pass stopped at it. -/
inductive Met (owner : OwnerReference) (c : Child) (m : Memory) (report : Report) :
    Except ReconcileError Report → Memory → Prop where
  | treated {t : Treatment} {next : Report} {m' : Memory} : Treated owner c m t m' →
      Tallied report [(c, t)] next → Met owner c m report (.ok next) m'
  | stopped {e : StoreError} {m' : Memory} : Stopped owner c m e m' →
      Met owner c m report (.error (.ofStore e)) m'

section Steps

variable {owner : OwnerReference} {c : Child} {m : Memory} (report : Report)

theorem create_met (unread : m.get c.key = none) :
    Met owner c m report ((create (c.prepare owner) report).run.run handle m).value
      ((create (c.prepare owner) report).run.run handle m).state := by
  have key := Child.key_prepare c owner
  have kind := Child.kind_prepare c owner
  by_cases fails : c.kind ∈ m.failing
  · obtain ⟨value, state⟩ := create_run_refused report (kind.symm ▸ fails : (c.prepare owner).kind ∈ _)
    rw [value, state]
    exact .stopped (.creation unread fails)
  have works : (c.prepare owner).kind ∉ m.failing := kind.symm ▸ fails
  cases found : m.object? c.key with
  | none =>
    obtain ⟨value, state⟩ := create_run_free report works (key.symm ▸ found)
    rw [value, state]
    exact .treated (.created found fails) (Tallied.observe ⟨rfl, rfl, rfl, rfl⟩ _)
  | some theirs =>
    obtain ⟨value, state⟩ := create_run_taken report works (key.symm ▸ found)
    rw [value, state]
    have hidden : c.key ∈ m.hidden := by
      by_contra seen
      cases unread.symm.trans ((if_neg seen).trans found)
    exact .treated (.raced hidden found fails) (Tallied.observe ⟨rfl, rfl, rfl, rfl⟩ _)

theorem recreate_met {live : Child} (read : m.get c.key = some live)
    (role : Child.roleChanged live (c.prepare owner) = true) :
    Met owner c m report
      ((create (c.prepare owner) report).run.run handle (m.delete (c.prepare owner).key)).value
      ((create (c.prepare owner) report).run.run handle (m.delete (c.prepare owner).key)).state := by
  have key := Child.key_prepare c owner
  have kind := Child.kind_prepare c owner
  rw [key]
  have failing : (m.delete c.key).failing = m.failing := (keeps_delete m c.key).failing
  by_cases fails : c.kind ∈ m.failing
  · have fails' : (c.prepare owner).kind ∈ (m.delete c.key).failing := by rwa [failing, kind]
    obtain ⟨value, state⟩ := create_run_refused report fails'
    rw [value, state]
    exact .stopped (.recreation read role fails)
  · obtain ⟨works, gone⟩ := free_of_delete owner fails
    obtain ⟨value, state⟩ := create_run_free report works gone
    rw [value, state]
    exact .treated (.recreated read role fails) (Tallied.observe ⟨rfl, rfl, rfl, rfl⟩ _)

theorem update_met {live : Child} (read : m.get c.key = some live) :
    Met owner c m report ((update live (c.prepare owner) owner report).run.run handle m).value
      ((update live (c.prepare owner) owner report).run.run handle m).state := by
  rw [update_run]
  by_cases role : Child.roleChanged live (c.prepare owner) = true
  · rw [if_pos role]
    exact recreate_met report read role
  · rw [if_neg role]
    simp only [Program.run]
    cases done : m.replace (Child.replacement live (c.prepare owner) owner) with
    | mk result m' =>
      have answer : m.handle (.replace (Child.replacement live (c.prepare owner) owner)) = _ := done
      rw [answer]
      cases result with
      | ok stored =>
        exact .treated (.replaced read done) (Tallied.observe ⟨rfl, rfl, rfl, rfl⟩ (some stored))
      | error e =>
        rcases replace_result m (Child.replacement live (c.prepare owner) owner) with
          ⟨e', refused⟩ | ⟨next, put⟩
        · cases done.symm.trans refused
          exact .stopped (.replacement read done)
        · cases done.symm.trans put

theorem child_met (owner : OwnerReference) (c : Child) (m : Memory) :
    Met owner c m report ((child owner report c).run.run handle m).value
      ((child owner report c).run.run handle m).state := by
  rw [child_run]
  simp only [Program.run]
  have answer : m.handle (.get (c.prepare owner).key) = (.ok (m.get c.key), m) := by
    rw [Child.key_prepare]
    rfl
  rw [answer]
  cases read : m.get c.key with
  | none => exact create_met report read
  | some live =>
    dsimp only
    split
    · next converged =>
      exact .treated (.unchanged read converged) (Tallied.observe ⟨rfl, rfl, rfl, rfl⟩ (some live))
    · exact update_met report read

end Steps

/-- How a pass ends after the treatments of its first children: they were all, or it stopped at the next. -/
inductive Ended (owner : OwnerReference) (report : Report) (cs : List Child)
    (steps : List (Child × Treatment)) (m : Memory) : Except ReconcileError Report → Memory → Prop where
  | finished {final : Report} : steps.map Prod.fst = cs → Tallied report steps final →
      Ended owner report cs steps m (.ok final) m
  | aborted {c : Child} {rest : List Child} {e : StoreError} {m' : Memory} :
      steps.map Prod.fst ++ c :: rest = cs → Stopped owner c m e m' →
      Ended owner report cs steps m (.error (.ofStore e)) m'

theorem Ended.cons {owner : OwnerReference} {report next : Report} {cs : List Child} {c : Child}
    {t : Treatment} {steps : List (Child × Treatment)} {m m' : Memory}
    {result : Except ReconcileError Report} (first : Tallied report [(c, t)] next)
    (h : Ended owner next cs steps m result m') :
    Ended owner report (c :: cs) ((c, t) :: steps) m result m' := by
  cases h with
  | finished all tallied => exact .finished (congrArg (c :: ·) all) (first.cons tallied)
  | aborted split stopped => exact .aborted (congrArg (c :: ·) split) stopped

/-- The steps of a run: its children are treated in order up to the one that stops it. -/
theorem children_ended (owner : OwnerReference) (report : Report) (cs : List Child) (m : Memory) :
    ∃ steps m₁, Ran owner m steps m₁ ∧ Ended owner report cs steps m₁
      ((children owner report cs).run.run handle m).value
      ((children owner report cs).run.run handle m).state := by
  induction cs generalizing report m with
  | nil => exact ⟨[], m, .nil, .finished rfl (.refl report)⟩
  | cons c rest ih =>
    have met := child_met report owner c m
    rw [children_run_cons, Program.value_bind handle (child owner report c).run,
      Program.state_bind handle (child owner report c).run]
    generalize ((child owner report c).run.run handle m).value = result at met ⊢
    generalize ((child owner report c).run.run handle m).state = m₁ at met ⊢
    cases met with
    | treated treated tallied =>
      obtain ⟨steps, m₂, ran, ended⟩ := ih _ m₁
      exact ⟨_ :: steps, m₂, .cons treated ran, ended.cons tallied⟩
    | stopped stopped => exact ⟨[], m, .nil, .aborted rfl stopped⟩

/-- What a pass over the children did, from the store before it to its end: the steps are the treatments
of all that did not stop it. -/
structure Course (owner : OwnerReference) (cs : List Child) (m : Memory)
    (steps : List (Child × Treatment)) (out : Outcome Memory (Except ReconcileError Report)) : Prop where
  /-- The children are treated in order, until they are through or a write is refused. -/
  ran : ∃ m₁, Ran owner m steps m₁ ∧ Ended owner {} cs steps m₁ out.value out.state
  /-- Only the objects of the children that were reached may change. -/
  frame : ∀ key, (∀ c ∈ cs.take (steps.length + 1), c.key ≠ key) →
    out.state.object? key = m.object? key
  /-- The log tells of the treated children and of the one that stopped the pass, which is at most the
  deletion of its object, and of no other. -/
  log : ∃ last, out.state.writes = m.writes ++ (steps.flatMap fun s => s.2.writes s.1) ++ last ∧
    (last = [] ∨ ∃ c, cs[steps.length]? = some c ∧ last = [.delete c.kind c.name])
  /-- What reads miss stays: its children are raced, or their kind cannot be written. -/
  hidden : ∀ key live, key ∈ m.hidden → m.object? key = some live →
    out.state.object? key = some live ∧ (∀ s ∈ steps, s.1.key = key → s.2 = .raced) ∧
      ∀ e c, out.value = .error e → cs[steps.length]? = some c → c.key = key → c.kind ∈ m.failing

section Course

variable {owner : OwnerReference} {report : Report} {cs : List Child} {c : Child} {rest : List Child}
  {steps : List (Child × Treatment)} {m m₁ m' : Memory} {result : Except ReconcileError Report}

theorem take_of_split (split : steps.map Prod.fst ++ c :: rest = cs) :
    cs.take (steps.length + 1) = steps.map Prod.fst ++ [c] ∧ cs[steps.length]? = some c := by
  subst split
  have whole : (steps.map Prod.fst).take (steps.length + 1) = steps.map Prod.fst :=
    List.take_of_length_le (by simp)
  simp [List.take_append, whole]

theorem Ended.frame (ran : Ran owner m steps m₁) (h : Ended owner report cs steps m₁ result m')
    {key : ChildKey} (apart : ∀ c ∈ cs.take (steps.length + 1), c.key ≠ key) :
    m'.object? key = m.object? key := by
  cases h with
  | finished all _ =>
    subst all
    refine ran.keeps.objects key fun s hs => apart s.1 ?_
    rw [List.take_of_length_le (by simp)]
    exact List.mem_map_of_mem hs
  | aborted split stopped =>
    rw [(take_of_split split).1] at apart
    have before := ran.keeps.objects key fun s hs =>
      apart s.1 (List.mem_append_left _ (List.mem_map_of_mem hs))
    have last := apart _ (List.mem_append_right _ List.mem_cons_self)
    exact (stopped.keeps.objects key last.symm).trans before

theorem Ended.log (ran : Ran owner m steps m₁) (h : Ended owner report cs steps m₁ result m') :
    ∃ last, m'.writes = m.writes ++ (steps.flatMap fun s => s.2.writes s.1) ++ last ∧
      (last = [] ∨ ∃ c, cs[steps.length]? = some c ∧ last = [.delete c.kind c.name]) := by
  rw [← ran.writes]
  cases h with
  | finished _ _ => exact ⟨[], (List.append_nil _).symm, .inl rfl⟩
  | aborted split stopped =>
    rcases stopped.writes with same | deleted
    · exact ⟨[], same.trans (List.append_nil _).symm, .inl rfl⟩
    · exact ⟨_, deleted, .inr ⟨_, (take_of_split split).2, rfl⟩⟩

theorem Ended.hidden (ran : Ran owner m steps m₁) (h : Ended owner report cs steps m₁ result m')
    {key : ChildKey} (hidden : key ∈ m.hidden) {live : Child} (present : m.object? key = some live) :
    m'.object? key = some live ∧ (∀ s ∈ steps, s.1.key = key → s.2 = .raced) ∧
      ∀ e c, result = .error e → cs[steps.length]? = some c → c.key = key → c.kind ∈ m.failing := by
  obtain ⟨after, raced⟩ := ran.of_hidden hidden present
  cases h with
  | finished all _ =>
    refine ⟨after, raced, fun e c failed => ?_⟩
    cases failed
  | @aborted c _ _ _ split stopped =>
    have hidden' : key ∈ m₁.hidden := ran.keeps.hidden ▸ hidden
    refine ⟨?_, raced, ?_⟩
    · by_cases same : c.key = key
      · rw [(stopped.of_hidden (same ▸ hidden')).2]
        exact after
      · exact (stopped.keeps.objects key (Ne.symm same)).trans after
    · intro e d _ next same
      cases (take_of_split split).2.symm.trans next
      rw [← ran.keeps.failing]
      exact (stopped.of_hidden (same ▸ hidden')).1

end Course

/-- Any convergence runs such a course, whatever the store hides and fails. -/
theorem converge_course (owner : OwnerReference) (set : ChildSet) (m : Memory) :
    ∃ steps, Course owner set.toList m steps (m.converge owner set) := by
  obtain ⟨steps, m₁, ran, ended⟩ := children_ended owner {} set.toList m
  exact ⟨steps, {
    ran := ⟨m₁, ran, ended⟩
    frame := fun _ => ended.frame ran
    log := ended.log ran
    hidden := fun _ _ hidden present => ended.hidden ran hidden present }⟩

/-- Reads miss the stray account and no deployment can be written: the pass leaves the account to its
writer, creates the binding and stops at the deployment, before the service. -/
theorem missed_account_stays :
    let r := Round.ofGateway "lab" "1"
    let key : ChildKey := ⟨.serviceAccount, "team", "lab"⟩
    let m := ((Memory.empty.insert Child.stray).2.hide key).failWritesFor .deployment
    let out := m.converge r.owner r.set
    (∃ steps live, Course r.owner r.set.toList m steps out ∧ out.state.object? key = some live ∧
      live.owners = [] ∧ ∀ s ∈ steps, s.1.key = key → s.2 = .raced) ∧
      out.state.writes = [.create .roleBinding "lab"] ∧ ∃ e, out.value = .error e := by
  intro r key m out
  obtain ⟨live, present⟩ : ∃ live, m.object? key = some live := ⟨_, rfl⟩
  obtain ⟨steps, course⟩ := converge_course r.owner r.set m
  obtain ⟨stays, raced, _⟩ := course.hidden key live List.mem_cons_self present
  refine ⟨⟨steps, live, course, stays, ?_, raced⟩, rfl, _, rfl⟩
  cases present
  rfl

end JupyterWorkloads.Converge
