import JupyterWorkloads.Proofs.Converge.Abort
import JupyterWorkloads.Proofs.Store.Clients

/-! The order of a pass and its accounts. A set has its children grouped by kind in dependency order, so
that the log of a pass goes through the kinds in that order, wherever the pass ends. One that ends well has
counted each child once, has counted what is in the log, and has left the store alone when it counted no
write. -/
namespace JupyterWorkloads

theorem ChildKind.pairwise_flatMap {α β : Type} (kind : α → ChildKind) (kind' : β → ChildKind)
    {f : α → List β} {l : List α} (order : l.Pairwise fun a b => (kind a).rank ≤ (kind b).rank)
    (uniform : ∀ a, ∀ b ∈ f a, kind' b = kind a) :
    (l.flatMap f).Pairwise fun a b => (kind' a).rank ≤ (kind' b).rank := by
  rw [List.pairwise_flatMap]
  constructor
  · intro a _
    refine List.pairwise_of_forall_mem_list fun b hb b' hb' => ?_
    exact Nat.le_of_eq (congrArg rank ((uniform a b hb).trans (uniform a b' hb').symm))
  · refine order.imp fun {a a'} below b hb b' hb' => ?_
    rw [uniform a b hb, uniform a' b' hb']
    exact below

namespace ChildSet

variable (cs : List Child)

/-- Of each kind, a set has the children in the order they were given. -/
theorem filter_ofList (kind : ChildKind) : (ofList cs).toList.filter (fun c => c.kind = kind) =
    cs.filter fun c => c.kind = kind := by
  have group : ∀ k, (cs.filter fun c => c.kind = k).filter (fun c => c.kind = kind) =
      if k = kind then cs.filter fun c => c.kind = kind else [] := by
    intro k
    rw [List.filter_filter]
    split
    · next same => simp [same]
    · next apart =>
      refine List.filter_eq_nil_iff.mpr fun c _ => ?_
      simp only [Bool.and_eq_true, decide_eq_true_eq, not_and]
      exact fun here there => apart (there.symm.trans here)
  rw [ofList, List.filter_flatMap]
  simp only [group]
  cases kind <;> simp [ChildKind.all]

theorem perm_ofList : (ofList cs).toList.Perm cs := by
  rw [List.perm_iff_count]
  intro c
  have group := congrArg (List.count c) (filter_ofList cs c.kind)
  rwa [List.count_filter (by simp), List.count_filter (by simp)] at group

theorem sorted_ofList : (ofList cs).toList.Pairwise fun a b => a.kind.rank ≤ b.kind.rank := by
  have order : ChildKind.all.Pairwise fun a b => a.rank ≤ b.rank := by decide
  refine ChildKind.pairwise_flatMap id Child.kind order fun kind c hc => ?_
  simpa using (List.mem_filter.mp hc).2

end ChildSet

namespace Store

def Write.kind : Write → ChildKind
  | create kind _ => kind
  | replace kind _ => kind
  | delete kind _ => kind

def Write.isCreate : Write → Bool
  | create _ _ => true
  | _ => false

def Write.isReplace : Write → Bool
  | replace _ _ => true
  | _ => false

/-- No kind is written after a later one. -/
def InKindOrder (log : List Write) : Prop := log.Pairwise fun a b => a.kind.rank ≤ b.kind.rank

/-- The entry that follows a deletion is the creation of the same object. -/
def Recreates (log : List Write) : Prop :=
  ∀ (i : Nat) (kind : ChildKind) (name : String), log[i]? = some (.delete kind name) →
    log[i + 1]? = some (.create kind name)

theorem Recreates.append {log more : List Write} (h : Recreates log) (h' : Recreates more) :
    Recreates (log ++ more) := by
  intro i kind name deleted
  by_cases early : i < log.length
  · rw [List.getElem?_append_left early] at deleted
    have next := h i kind name deleted
    have inside : i + 1 < log.length := (List.getElem?_eq_some_iff.mp next).1
    rwa [List.getElem?_append_left inside]
  · rw [List.getElem?_append_right (by omega)] at deleted ⊢
    have next := h' _ kind name deleted
    rwa [show i + 1 - log.length = i - log.length + 1 by omega]

theorem Recreates.eq_nil {log : List Write} (h : Recreates log) (created : log.countP Write.isCreate = 0)
    (replaced : log.countP Write.isReplace = 0) : log = [] := by
  rw [List.countP_eq_zero] at created replaced
  cases log with
  | nil => rfl
  | cons first rest =>
    cases first with
    | create kind name => exact absurd rfl (created _ List.mem_cons_self)
    | replace kind name => exact absurd rfl (replaced _ List.mem_cons_self)
    | delete kind name => exact absurd rfl (created _ (List.mem_of_getElem? (h 0 kind name rfl)))

end Store

namespace Converge

open Store Memory

section Steps

variable {owner : OwnerReference} {c : Child} {t : Treatment} {m m' : Memory}
  {steps : List (Child × Treatment)}

def writesOf (steps : List (Child × Treatment)) : List Write := steps.flatMap fun s => s.2.writes s.1

theorem kind_of_writes {write : Write} (h : write ∈ t.writes c) : write.kind = c.kind := by
  cases t <;> simp only [Treatment.writes, List.mem_cons, List.not_mem_nil, or_false] at h
  case recreated => rcases h with rfl | rfl <;> rfl
  all_goals rw [h]; rfl

theorem recreates_writes (c : Child) (t : Treatment) : Recreates (t.writes c) := by
  intro i kind name deleted
  cases t <;> simp only [Treatment.writes] at deleted ⊢
  case recreated =>
    cases i with
    | zero => cases deleted; rfl
    | succ i => cases i <;> cases deleted
  all_goals cases i <;> cases deleted

theorem recreates_writesOf (steps : List (Child × Treatment)) : Recreates (writesOf steps) := by
  induction steps with
  | nil => intro i kind name deleted; cases deleted
  | cons s rest ih => exact (recreates_writes s.1 s.2).append ih

theorem inKindOrder_writesOf (h : (steps.map Prod.fst).Pairwise fun a b => a.kind.rank ≤ b.kind.rank) :
    InKindOrder (writesOf steps) := by
  have order := List.pairwise_map.mp h
  exact ChildKind.pairwise_flatMap (fun s => s.1.kind) Write.kind order fun _ _ => kind_of_writes

theorem countP_writesOf (entry : Write → Bool) (treated : Treatment → Bool)
    (each : ∀ c t, (t.writes c).countP entry = (treated t).toNat) (steps : List (Child × Treatment)) :
    (writesOf steps).countP entry = steps.countP fun s => treated s.2 := by
  induction steps with
  | nil => rfl
  | cons s rest ih =>
    simp only [writesOf, List.flatMap_cons, List.countP_append, List.countP_cons] at ih ⊢
    rw [ih, each, Nat.add_comm]
    cases treated s.2 <;> rfl

theorem countP_create (steps : List (Child × Treatment)) : (writesOf steps).countP Write.isCreate =
    steps.countP fun s => s.2 = .created ∨ s.2 = .recreated := by
  refine countP_writesOf _ (fun t => t = .created ∨ t = .recreated) (fun c t => ?_) steps
  cases t <;> rfl

theorem countP_replace (steps : List (Child × Treatment)) : (writesOf steps).countP Write.isReplace =
    steps.countP (·.2 = .replaced) := by
  refine countP_writesOf _ (· = .replaced) (fun c t => ?_) steps
  cases t <;> rfl

theorem length_steps (steps : List (Child × Treatment)) : steps.length =
    steps.countP (fun s => s.2 = .created ∨ s.2 = .recreated) + steps.countP (·.2 = .replaced) +
      steps.countP (·.2 = .unchanged) + steps.countP (·.2 = .raced) := by
  induction steps with
  | nil => rfl
  | cons s rest ih =>
    obtain ⟨c, t⟩ := s
    simp only [List.length_cons, List.countP_cons]
    cases t
    all_goals
      simp only [reduceCtorEq, or_false, or_true, decide_true, decide_false, if_true, Bool.false_eq_true,
        if_false]
      omega

theorem create_stores {child : Child} (works : child.kind ∉ m.failing) (absent : m.object? child.key = none) :
    ∃ stored, (m.create child).2.object? child.key = some stored ∧ StoredAs (m.version + 1) stored := by
  rw [create_free works absent, object?_logged, object?_put, if_pos rfl]
  exact ⟨_, rfl, storedAs_admitted _ _⟩

theorem replace_stores {child stored : Child} (done : m.replace child = (.ok stored, m')) :
    m'.object? child.key = some stored ∧ StoredAs (m.version + 1) stored := by
  rcases replace_result m child with ⟨e, refused⟩ | ⟨next, put⟩
  · cases done.symm.trans refused
  · cases done.symm.trans put
    rw [object?_logged, object?_put, if_pos rfl]
    exact ⟨rfl, storedAs_admitted _ _⟩

theorem Treated.advances (h : Treated owner c m t m') : Advances m m' := by
  cases h with
  | unchanged _ _ => exact .refl m
  | created _ _ => exact advances_apply m (.create _)
  | recreated _ _ _ => exact (advances_delete m c.key).trans (advances_apply _ (.create _))
  | @replaced live _ _ _ done =>
    have advances := advances_apply m (.replace (Child.replacement live (c.prepare owner) owner))
    rwa [Edit.apply, done] at advances
  | raced _ _ _ => exact .refl m

theorem Treated.quiet (h : Treated owner c m t m') (silent : t.writes c = []) : m' = m := by
  cases h with
  | unchanged _ _ => rfl
  | raced _ _ _ => rfl
  | created _ _ => cases silent
  | recreated _ _ _ => cases silent
  | replaced _ _ => cases silent

/-- The store holds an object that is newer than all there were. -/
def HoldsNewer (m m' : Memory) : Prop :=
  ∃ key stored version, m'.object? key = some stored ∧ StoredAs version stored ∧ m.version < version

theorem Treated.stores (h : Treated owner c m t m') (writes : t.writes c ≠ []) : HoldsNewer m m' := by
  have key := Child.key_prepare c owner
  have kind := Child.kind_prepare c owner
  cases h with
  | unchanged _ _ => exact absurd rfl writes
  | raced _ _ _ => exact absurd rfl writes
  | created absent works =>
    obtain ⟨stored, present, new⟩ := create_stores (kind ▸ works) (key ▸ absent)
    exact ⟨_, stored, _, present, new, Nat.lt_succ_self _⟩
  | recreated _ _ works =>
    obtain ⟨works', gone⟩ := free_of_delete owner works
    obtain ⟨stored, present, new⟩ := create_stores works' gone
    exact ⟨_, stored, _, present, new, Nat.lt_succ_of_le (keeps_delete m c.key).version⟩
  | replaced _ done =>
    obtain ⟨present, new⟩ := replace_stores done
    exact ⟨_, _, _, present, new, Nat.lt_succ_self _⟩

theorem Ran.quiet (h : Ran owner m steps m') (silent : writesOf steps = []) : m' = m := by
  induction h with
  | nil => rfl
  | cons first _ ih =>
    obtain ⟨here, later⟩ := List.append_eq_nil_iff.mp silent
    rw [ih later, first.quiet here]

/-- A run with a write ends with an object of a new version: that of the last write. -/
theorem Ran.stores (h : Ran owner m steps m') (writes : writesOf steps ≠ []) : HoldsNewer m m' := by
  induction h with
  | nil => exact absurd rfl writes
  | @cons m m₁ m' c t steps first rest ih =>
    by_cases silent : writesOf steps = []
    · rw [rest.quiet silent]
      refine first.stores fun none => writes ?_
      rw [writesOf, List.flatMap_cons, none]
      exact silent
    · obtain ⟨key, stored, version, present, new, later⟩ := ih silent
      exact ⟨key, stored, version, present, new, Nat.lt_of_le_of_lt first.advances.version later⟩

theorem HoldsNewer.changes (h : HoldsNewer m m') (versioned : Versioned m) :
    ∃ key, m'.object? key ≠ m.object? key := by
  obtain ⟨key, stored, version, present, new, later⟩ := h
  refine ⟨key, fun same => ?_⟩
  obtain ⟨old, carried, known⟩ := versioned key stored (same.symm.trans present)
  have := carried.inj new rfl
  omega

end Steps

/-- What the report of a pass says of the log and of the store, with what each child has in the log. -/
structure Accounts (cs : List Child) (m : Memory) (log : List Write) (report : Report) (after : Memory) :
    Prop where
  total : report.created + report.updated + report.unchanged + report.raced = cs.length
  created : report.created = log.countP Write.isCreate
  updated : report.updated = log.countP Write.isReplace
  entries : ∃ steps : List (Child × Treatment), steps.map Prod.fst = cs ∧ log = writesOf steps
  recreates : Recreates log
  quiet : report.writes = 0 ↔ after = m
  objects : Reachable m → (report.writes = 0 ↔ ∀ key, after.object? key = m.object? key)

section Runs

variable {owner : OwnerReference} {cs : List Child} {m m₁ m' : Memory} {steps : List (Child × Treatment)}
  {report : Report} {result : Except ReconcileError Report}

theorem Ran.accounts (ran : Ran owner m steps m') (tallied : Tallied {} steps report) :
    Accounts (steps.map Prod.fst) m (writesOf steps) report m' := by
  have created : report.created = (writesOf steps).countP Write.isCreate := by
    rw [countP_create, tallied.created, Nat.zero_add]
  have updated : report.updated = (writesOf steps).countP Write.isReplace := by
    rw [countP_replace, tallied.updated, Nat.zero_add]
  have recreates := recreates_writesOf steps
  have silent : report.writes = 0 ↔ writesOf steps = [] := by
    rw [Report.writes, created, updated, Nat.add_eq_zero_iff]
    constructor
    · rintro ⟨noCreate, noReplace⟩
      exact recreates.eq_nil noCreate noReplace
    · intro none
      simp [none]
  refine ⟨?_, created, updated, ⟨steps, rfl, rfl⟩, recreates, ?_, ?_⟩
  · rw [List.length_map, length_steps, tallied.created, tallied.updated, tallied.unchanged, tallied.raced]
    simp
  · rw [silent]
    refine ⟨ran.quiet, fun same => ?_⟩
    have log := ran.writes
    rw [same] at log
    exact List.append_right_eq_self.mp log.symm
  · intro reachable
    rw [silent]
    constructor
    · intro none key
      rw [ran.quiet none]
    · intro same
      by_contra writes
      obtain ⟨key, changed⟩ := (ran.stores writes).changes reachable.versioned
      exact changed (same key)

/-- Wherever a pass over children in kind order ends, its log is in kind order; at the end of the children
the report accounts for it. -/
theorem Ended.accounts (ran : Ran owner m steps m₁) (h : Ended owner {} cs steps m₁ result m')
    (sorted : cs.Pairwise fun a b => a.kind.rank ≤ b.kind.rank) :
    ∃ log, m'.writes = m.writes ++ log ∧ InKindOrder log ∧
      ∀ report, result = .ok report → Accounts cs m log report m' := by
  cases h with
  | finished all tallied =>
    subst all
    refine ⟨writesOf steps, ran.writes, inKindOrder_writesOf sorted, ?_⟩
    rintro _ ⟨⟩
    exact ran.accounts tallied
  | @aborted c rest _ _ split stopped =>
    subst split
    obtain ⟨ahead, _, apart⟩ := List.pairwise_append.mp sorted
    have done := inKindOrder_writesOf ahead
    rcases stopped.writes with same | deleted
    · exact ⟨writesOf steps, same.trans ran.writes, done, fun _ ends => by cases ends⟩
    · refine ⟨writesOf steps ++ [.delete c.kind c.name], ?_, ?_, fun _ ends => by cases ends⟩
      · rw [deleted, ran.writes, List.append_assoc]
        rfl
      · refine List.pairwise_append.mpr ⟨done, List.pairwise_singleton _ _, ?_⟩
        intro a ha b hb
        obtain ⟨s, hs, entry⟩ := List.mem_flatMap.mp ha
        rw [List.mem_singleton.mp hb, kind_of_writes entry]
        exact apart s.1 (List.mem_map_of_mem hs) c List.mem_cons_self

end Runs

/-- Any children are converged in dependency order, those of a kind as they were given, and so they are
written. A pass that ends well has accounted for each of them and for each write. -/
theorem pass_is_ordered_and_accounted_for (owner : OwnerReference) (cs : List Child) (m : Memory) :
    let set := ChildSet.ofList cs
    let out := m.converge owner set
    set.toList.Perm cs ∧ (set.toList.Pairwise fun a b => a.kind.rank ≤ b.kind.rank) ∧
    (∀ kind, set.toList.filter (fun c => c.kind = kind) = cs.filter fun c => c.kind = kind) ∧
    ∃ log, out.state.writes = m.writes ++ log ∧ InKindOrder log ∧
      ∀ report, out.value = .ok report → Accounts set.toList m log report out.state := by
  intro set out
  have sorted := ChildSet.sorted_ofList cs
  obtain ⟨steps, m₁, ran, ended⟩ := children_ended owner {} set.toList m
  exact ⟨ChildSet.perm_ofList cs, sorted, ChildSet.filter_ofList cs, ended.accounts ran sorted⟩

theorem reversed_children_are_written_in_order :
    let g := Gateway.plain "team" "lab" "1"
    let r := Round.ofGateway "lab" "1"
    let former : Child := .roleBinding { g.roleBinding default with
      roleRef := { (g.roleBinding default).roleRef with name := "former" } }
    let m := ((Memory.empty.insert Child.stray).2.insert former).2.hide Child.stray.key
    let set := ChildSet.ofList r.set.toList.reverse
    let out := m.converge r.owner set
    ∃ report log, out.value = .ok report ∧ out.state.writes = m.writes ++ log ∧ InKindOrder log ∧
      Accounts set.toList m log report out.state ∧
      log = [.delete .roleBinding "lab", .create .roleBinding "lab", .create .deployment "lab",
        .create .service "lab"] ∧
      report.created = 3 ∧ report.raced = 1 := by
  intro g r former m set out
  obtain ⟨_, _, _, log, writes, order, accounts⟩ :=
    pass_is_ordered_and_accounted_for r.owner r.set.toList.reverse m
  obtain ⟨report, ends⟩ : ∃ report, out.value = .ok report := ⟨_, rfl⟩
  refine ⟨report, log, ends, writes, order, accounts report ends, ?_, ?_⟩
  · have none : m.writes = [] := rfl
    rw [none, List.nil_append] at writes
    exact writes.symm.trans rfl
  · cases ends
    exact ⟨rfl, rfl⟩

end Converge

end JupyterWorkloads
