import JupyterWorkloads.Proofs.Converge.Settlement

/-! Passes over a store that hides nothing and fails no write. Such a pass always succeeds, and the
object of each child is kept, created, created again or replaced. -/
namespace JupyterWorkloads.Converge

open Store Memory

/-- What the object under the key of a desired child became in a pass that succeeded. -/
inductive Became (owner : OwnerReference) (slot : Option Child) (desired : Child) (version : Nat) :
    Child → Prop where
  | kept {live : Child} : slot = some live → live.isConverged desired owner = true →
      Became owner slot desired version live
  | created : slot = none → Became owner slot desired version (.created version desired)
  | recreated {live : Child} : slot = some live → live.isConverged desired owner = false →
      Child.roleChanged live desired = true →
      Became owner slot desired version (.created version desired)
  | replaced {live : Child} : slot = some live → live.isConverged desired owner = false →
      Child.roleChanged live desired = false →
      Became owner slot desired version (.replaced version live desired owner)

theorem Became.kind {owner : OwnerReference} {slot : Option Child} {desired stored : Child}
    {version : Nat} (h : Became owner slot desired version stored) : stored.kind = desired.kind := by
  cases h with
  | kept _ converged => exact Child.kind_of_isConverged converged
  | created _ => exact Child.kind_created version desired
  | recreated _ _ _ => exact Child.kind_created version desired
  | replaced _ _ _ => exact Child.kind_replaced version _ desired owner

theorem deployment?_eq_some {c : Child} {o : Deployment} : c.deployment? = some o ↔ c = .deployment o := by
  cases c <;> simp [Child.deployment?]

theorem isSome_deployment? (c : Child) : c.deployment?.isSome ↔ c.kind = .deployment := by
  cases c <;> simp [Child.deployment?, Child.kind]

theorem observe_deployment (report : Report) (c : Child) :
    (report.observe (some c)).deployment = c.deployment?.or report.deployment := by
  cases c <;> rfl

section Reliable

variable {owner : OwnerReference} {m m' : Memory} {report : Report} {cs : List Child}
  {result : Except ReconcileError Report} (hidden : m.hidden = []) (works : m.failing = [])

include works

theorem creation_free (version : Nat) (desired : Child) (report : Report) :
    creation m version desired report none =
      (.ok ({ report with created := report.created + 1 }.observe
        (some (.created version desired))), some (.created version desired)) := by
  simp only [creation, works, List.not_mem_nil, if_false]

include hidden

theorem settlement_reliable (version : Nat) (owner : OwnerReference) (report : Report)
    (desired : Child) : ∃ next stored,
      settlement m version owner report desired = (.ok next, some stored) ∧
        Became owner (m.object? desired.key) desired version stored ∧
          next.deployment = stored.deployment?.or report.deployment := by
  have read : m.get desired.key = m.object? desired.key := by
    rw [Memory.get, hidden]
    rfl
  have free := creation_free works version desired report
  unfold settlement
  rw [read]
  cases found : m.object? desired.key with
  | none => exact ⟨_, _, free, .created rfl, observe_deployment _ _⟩
  | some live =>
    dsimp only
    by_cases converged : live.isConverged desired owner = true
    · rw [if_pos converged]
      exact ⟨_, _, rfl, .kept rfl converged, observe_deployment _ _⟩
    · rw [if_neg converged]
      have drifted := Bool.eq_false_iff.mpr converged
      by_cases role : Child.roleChanged live desired = true
      · rw [if_pos role]
        exact ⟨_, _, free, .recreated rfl drifted role, observe_deployment _ _⟩
      · rw [if_neg role, works, if_neg List.not_mem_nil]
        have kept := Bool.eq_false_iff.mpr role
        exact ⟨_, _, rfl, .replaced rfl drifted kept, observe_deployment _ _⟩

theorem Passed.reliable (h : Passed owner m m' report cs result) :
    (∃ final, result = .ok final) ∧ ∀ c ∈ cs, ∃ version stored, m'.object? c.key = some stored ∧
      Became owner (m.object? c.key) (c.prepare owner) version stored := by
  induction h with
  | @nil report =>
    refine ⟨⟨report, rfl⟩, ?_⟩
    intro c hc
    cases hc
  | @stop report c rest version e _ out _ =>
    obtain ⟨next, stored, ends, _⟩ :=
      settlement_reliable hidden works version owner report (c.prepare owner)
    cases out.trans ends
  | @step report next c rest version result _ out _ ih =>
    obtain ⟨next, stored, ends, became, _⟩ :=
      settlement_reliable hidden works version owner report (c.prepare owner)
    rw [Child.key_prepare] at became
    refine ⟨ih.1, ?_⟩
    intro d hd
    rcases List.mem_cons.mp hd with rfl | hd
    · exact ⟨version, stored, congrArg Prod.snd (out.trans ends), became⟩
    · exact ih.2 d hd

theorem Passed.deployment (h : Passed owner m m' report cs result) {final : Report}
    (ends : result = .ok final) :
    (∀ o, final.deployment = some o →
      report.deployment = some o ∨ ∃ c ∈ cs, m'.object? c.key = some (.deployment o)) ∧
    (report.deployment.isSome ∨ (∃ c ∈ cs, c.kind = .deployment) → final.deployment.isSome) := by
  induction h with
  | nil =>
    cases ends
    exact ⟨fun o h => .inl h, fun h => h.resolve_right (by rintro ⟨c, hc, _⟩; cases hc)⟩
  | stop _ _ _ => cases ends
  | @step report next c rest version result _ out _ ih =>
    obtain ⟨next', stored, settled, became, seen⟩ :=
      settlement_reliable hidden works version owner report (c.prepare owner)
    obtain ⟨same, present⟩ := Prod.mk.inj (out.trans settled)
    cases same
    obtain ⟨known, reported⟩ := ih ends
    refine ⟨?_, ?_⟩
    · intro o h
      rcases known o h with earlier | ⟨d, hd, later⟩
      · rcases Option.or_eq_some_iff.mp (seen ▸ earlier) with here | ⟨_, before⟩
        · exact .inr ⟨c, List.mem_cons_self, deployment?_eq_some.mp here ▸ present⟩
        · exact .inl before
      · exact .inr ⟨d, List.mem_cons_of_mem _ hd, later⟩
    · intro h
      apply reported
      rw [seen, Option.isSome_or, Bool.or_eq_true, isSome_deployment?, became.kind, Child.kind_prepare]
      rcases h with before | ⟨d, hd, kind⟩
      · exact .inl (.inr before)
      · rcases List.mem_cons.mp hd with rfl | hd
        · exact .inl (.inl kind)
        · exact .inr ⟨d, hd, kind⟩

end Reliable

/-- A pass over a reliable store: it succeeds, the store stays reliable, each generated child became
something and everything else is left alone. -/
structure Succeeds (owner : OwnerReference) (set : ChildSet) (m : Memory) : Prop where
  value : ∃ report, (m.converge owner set).value = .ok report
  hidden : (m.converge owner set).state.hidden = []
  failing : (m.converge owner set).state.failing = []
  became : ∀ c ∈ set.toList, ∃ version stored,
    (m.converge owner set).state.object? c.key = some stored ∧
      Became owner (m.object? c.key) (c.prepare owner) version stored
  others : ∀ key, (∀ c ∈ set.toList, key ≠ c.key) →
    (m.converge owner set).state.object? key = m.object? key

theorem converge_succeeds {p : Parent} {set : ChildSet} (h : set.GeneratedFor p) {m : Memory}
    (hidden : m.hidden = []) (works : m.failing = []) (owner : OwnerReference) :
    Succeeds owner set m := by
  obtain ⟨passed, keeps⟩ := converge_settles h m owner
  obtain ⟨value, became⟩ := passed.reliable hidden works
  exact ⟨value, keeps.hidden.trans hidden, keeps.failing.trans works, became, keeps.objects⟩

/-- What one pass works with: a parent that can own objects, and the children it has with the defaults
and references of the day. -/
structure Round where
  parent : Parent
  defaults : Defaults
  resolver : Resolver
  owner : OwnerReference
  set : ChildSet
  owned : parent.owner? = some owner
  given : (Generating.resolve resolver (parent.generate defaults)).value = .ok set

namespace Round

theorem generated (r : Round) : r.set.GeneratedFor r.parent := Parent.generatedFor r.given

def run (m : Memory) (rounds : List Round) : Memory :=
  rounds.foldl (fun m r => (m.converge r.owner r.set).state) m

theorem run_append (m : Memory) (rounds : List Round) (last : Round) :
    run m (rounds ++ [last]) = ((run m rounds).converge last.owner last.set).state := by
  rw [run, List.foldl_append]
  rfl

theorem reliable_run {m : Memory} (hidden : m.hidden = []) (works : m.failing = [])
    (rounds : List Round) : (run m rounds).hidden = [] ∧ (run m rounds).failing = [] := by
  induction rounds generalizing m with
  | nil => exact ⟨hidden, works⟩
  | cons r rest ih =>
    have succeeds := converge_succeeds r.generated hidden works r.owner
    exact ih succeeds.hidden succeeds.failing

/-- Every pass over a store that starts empty succeeds. -/
theorem succeeds_after (rounds : List Round) (last : Round) :
    Succeeds last.owner last.set (run Memory.empty rounds) := by
  have reliable := reliable_run (m := Memory.empty) rfl rfl rounds
  exact converge_succeeds last.generated reliable.1 reliable.2 last.owner

def ofGateway (name uid : String) : Round where
  parent := .gateway (Gateway.plain "team" name uid)
  defaults := default
  resolver l := .error (.notFound l)
  owner := {
    apiVersion := apiVersion
    blockOwnerDeletion := none
    controller := some true
    kind := "JupyterGateway"
    name := name
    uid := uid }
  set := (Gateway.plain "team" name uid).children default
  owned := rfl
  given := Gateway.resolve_generate rfl default _

def ofNotebook (name uid : String) : Round where
  parent := .notebook (Notebook.plain "team" name uid "lab")
  defaults := default
  resolver l := .error (.notFound l)
  owner := {
    apiVersion := apiVersion
    blockOwnerDeletion := none
    controller := some true
    kind := "JupyterNotebook"
    name := name
    uid := uid }
  set := ((Notebook.plain "team" name uid "lab").children default).toOption.getD default
  owned := rfl
  given := rfl

end Round

end JupyterWorkloads.Converge
