import JupyterWorkloads.Proofs.Converge.Controllers
import JupyterWorkloads.Proofs.Converge.Fixpoint
import JupyterWorkloads.Proofs.Store.Clients

/-! Writes of other clients between the read of a child and the pass's own write. A creation and a
replacement give way to them: the one finds an object in its place, the other a later version than was
read. A deletion asks for neither, so a binding whose role changed is deleted whatever it has become. -/
namespace JupyterWorkloads

namespace Program

variable {I : Interface} {σ α : Type}

/-- Runs a program while others act on the state once, just before its request of the number. -/
def runBeside (handle : (r : I.Request) → σ → I.Answer r × σ) (act : σ → σ) :
    Nat → Program I α → σ → Outcome σ α
  | _, done a, s => ⟨a, s, []⟩
  | n, note line rest, s =>
    let out := runBeside handle act n rest s
    { out with log := line :: out.log }
  | 0, ask r next, s => (ask r next).run handle (act s)
  | n + 1, ask r next, s => runBeside handle act n (next (handle r s).1) (handle r s).2

theorem runBeside_ask {handle : (r : I.Request) → σ → I.Answer r × σ} {r : I.Request}
    {next : I.Answer r → Program I α} {answer : I.Answer r} {s t : σ} (h : handle r s = (answer, t))
    (act : σ → σ) (n : Nat) :
    (ask r next).runBeside handle act (n + 1) s = (next answer).runBeside handle act n t := by
  show (next (handle r s).1).runBeside handle act n (handle r s).2 = _
  rw [h]

end Program

namespace Converge

open Store Memory

/-- A child ended as one that another client was faster with: in an error of the store, or counted as
raced and as nothing else. -/
def Outrun (report : Report) : Except ReconcileError Report → Prop
  | .ok final => final.raced = report.raced + 1 ∧ final.created = report.created ∧
      final.updated = report.updated ∧ final.unchanged = report.unchanged
  | .error (.conflict _) => True
  | .error (.platform _ _) => True
  | .error _ => False

/-- The object of another client is stored at the end, and the pass tells of it. -/
structure GivesWay (key : ChildKey) (theirs : Child) (report : Report)
    (out : Outcome Memory (Except ReconcileError Report)) : Prop where
  kept : out.state.object? key = some theirs
  told : Outrun report out.value

section Writes

variable {m : Memory} {desired live theirs : Child} {owner : OwnerReference} (report : Report)

theorem create_succeeds (works : desired.kind ∉ m.failing) (absent : m.object? desired.key = none) :
    ((create desired report).run.run handle m).state.object? desired.key =
        some (.created (m.version + 1) desired) ∧
      ((create desired report).run.run handle m).value =
        .ok ({ report with created := report.created + 1 }.observe
          (some (.created (m.version + 1) desired))) := by
  obtain ⟨value, state⟩ := create_run_free report works absent
  refine ⟨?_, value⟩
  rw [state, create_free works absent, object?_logged, object?_put, if_pos rfl]
  rfl

theorem create_gives_way (present : m.object? desired.key = some theirs) :
    GivesWay desired.key theirs report ((create desired report).run.run handle m) := by
  by_cases fails : desired.kind ∈ m.failing
  · obtain ⟨value, state⟩ := create_run_refused report fails
    refine ⟨by rw [state, present], ?_⟩
    rw [value]
    trivial
  · obtain ⟨value, state⟩ := create_run_taken report fails present
    refine ⟨by rw [state, present], ?_⟩
    obtain ⟨created, updated, unchanged, raced⟩ :=
      observe_counters { report with raced := report.raced + 1 } (m.get desired.key)
    rw [value]
    exact ⟨raced, created, updated, unchanged⟩

theorem replace_gives_way (kept : Child.roleChanged live desired = false)
    (present : m.object? desired.key = some theirs)
    (newer : live.metadata.resourceVersion ≠ theirs.metadata.resourceVersion) :
    GivesWay desired.key theirs report ((update live desired owner report).run.run handle m) := by
  rw [update_run, if_neg (Bool.eq_false_iff.mp kept)]
  let next := Child.replacement live desired owner
  have keys : next.key = desired.key := Child.key_replacement live owner desired
  by_cases fails : next.kind ∈ m.failing
  · have answer : m.handle (.replace next) = _ := replace_refused fails
    simp only [Program.run]
    rw [answer]
    exact ⟨present, trivial⟩
  · have stale : theirs.metadata.resourceVersion ≠ next.metadata.resourceVersion := by
      rw [Child.metadata_replacement]
      exact newer.symm
    have answer : m.handle (.replace next) = _ := replace_stale fails (keys ▸ present) stale
    simp only [Program.run]
    rw [answer]
    exact ⟨present, trivial⟩

theorem recreate_run (owner : OwnerReference) (changed : Child.roleChanged live desired = true) :
    ((update live desired owner report).run.run handle m).state =
        ((create desired report).run.run handle (m.delete desired.key)).state ∧
      ((update live desired owner report).run.run handle m).value =
        ((create desired report).run.run handle (m.delete desired.key)).value := by
  rw [update_run, if_pos changed]
  exact ⟨rfl, rfl⟩

/-- What was stored before the deletion is gone, whatever it was: a later object is in its place, or none
where the kind fails. -/
theorem recreate_overwrites (changed : Child.roleChanged live desired = true)
    (known : Versioned m) (present : m.object? desired.key = some theirs) :
    ((update live desired owner report).run.run handle m).state.object? desired.key ≠ some theirs := by
  have gone : (m.delete desired.key).object? desired.key = none := by
    rw [object?_delete, if_pos rfl]
  rw [(recreate_run report owner changed).1]
  by_cases fails : desired.kind ∈ (m.delete desired.key).failing
  · rw [(create_run_refused report fails).2]
    intro same
    cases gone.symm.trans same
  · rw [(create_succeeds report fails gone).1]
    intro same
    obtain ⟨version, stored, old⟩ := known _ _ present
    have later := (advances_delete m desired.key).version
    rw [← Option.some.inj same] at stored
    have equal := stored.inj (storedAs_admitted _ _) rfl
    omega

end Writes

section Beside

variable {m : Memory} {c live desired : Child} {owner : OwnerReference} (report : Report)
  (act : Memory → Memory) (n : Nat)

theorem create_beside : (create desired report).run.runBeside handle act 0 m =
    (create desired report).run.run handle (act m) := by
  rw [create_run]
  rfl

theorem update_beside : (update live desired owner report).run.runBeside handle act 0 m =
    (update live desired owner report).run.run handle (act m) := by
  rw [update_run]
  split <;> rfl

theorem child_beside_unread (unread : m.get c.key = none) :
    (child owner report c).run.runBeside handle act (n + 1) m =
      (create (c.prepare owner) report).run.runBeside handle act n m := by
  have answer : m.handle (.get (c.prepare owner).key) = (.ok none, m) := by
    rw [handle, Child.key_prepare, unread]
  rw [child_run, Program.runBeside_ask (I := Calls) answer]

theorem child_beside_read (read : m.get c.key = some live)
    (drifted : live.isConverged (c.prepare owner) owner = false) :
    (child owner report c).run.runBeside handle act (n + 1) m =
      (update live (c.prepare owner) owner report).run.runBeside handle act n m := by
  have answer : m.handle (.get (c.prepare owner).key) = (.ok (some live), m) := by
    rw [handle, Child.key_prepare, read]
  rw [child_run, Program.runBeside_ask (I := Calls) answer]
  simp only [if_neg (Bool.eq_false_iff.mp drifted)]

theorem recreate_beside (owner : OwnerReference) (changed : Child.roleChanged live desired = true) :
    ((update live desired owner report).run.runBeside handle act (n + 1) m).state =
        ((create desired report).run.runBeside handle act n (m.delete desired.key)).state ∧
      ((update live desired owner report).run.runBeside handle act (n + 1) m).value =
        ((create desired report).run.runBeside handle act n (m.delete desired.key)).value := by
  rw [update_run, if_pos changed]
  exact ⟨rfl, rfl⟩

end Beside

/-- The read of a child gives a binding with another role than it should have. -/
def Recreates (owner : OwnerReference) (c : Child) (m : Memory) : Prop :=
  ∃ live, m.get c.key = some live ∧ Child.roleChanged live (c.prepare owner) = true

/-- An object that other clients have put in the place of a child since the pass read it stays, and the
pass tells that it was outrun, unless what was read is a binding whose role changed. Such a binding is
deleted whatever it has become in the meantime; only what is put in its place after the deletion stays. -/
theorem others_object_stays_unless_recreated (owner : OwnerReference) (c : Child) (report : Report)
    {m : Memory} (reachable : Reachable m)
    (drifted : ∀ live, m.get c.key = some live → live.isConverged (c.prepare owner) owner = false) :
    (∀ edits theirs, (m.edited edits).object? c.key = some theirs → m.object? c.key ≠ some theirs →
      let out := (child owner report c).run.runBeside handle (·.edited edits) 1 m
      (¬ Recreates owner c m → GivesWay c.key theirs report out) ∧
        (Recreates owner c m → out.state.object? c.key ≠ some theirs)) ∧
    (Recreates owner c m → ∀ edits theirs,
      ((m.delete c.key).edited edits).object? c.key = some theirs →
        GivesWay c.key theirs report
          ((child owner report c).run.runBeside handle (·.edited edits) 2 m)) := by
  have keys := Child.key_prepare c owner
  refine ⟨?_, ?_⟩
  · intro edits theirs present new
    have since := advances_edited m edits
    cases read : m.get c.key with
    | none =>
      rw [child_beside_unread report _ 0 read, create_beside]
      refine ⟨fun _ => ?_, ?_⟩
      · rw [← keys] at present ⊢
        exact create_gives_way report present
      · rintro ⟨live, found, _⟩
        cases read.symm.trans found
    | some live =>
      rw [child_beside_read report _ 0 read (drifted live read), update_beside]
      have old : m.object? c.key = some live := object?_of_get read
      rw [← keys] at present ⊢
      refine ⟨?_, ?_⟩
      · intro stays
        have kept : Child.roleChanged live (c.prepare owner) = false :=
          Bool.eq_false_iff.mpr fun changed => stays ⟨live, read, changed⟩
        refine replace_gives_way report kept present ?_
        intro same
        obtain ⟨version, stored, known⟩ := reachable.versioned _ _ old
        obtain ⟨version', stored', later, _⟩ := since.newer present (keys ▸ new)
        have equal := stored.inj stored' same
        omega
      · rintro ⟨found, hit, changed⟩
        cases read.symm.trans hit
        exact recreate_overwrites report changed (reachable.versioned.advances since) present
  · rintro ⟨live, read, changed⟩ edits theirs present
    have ends := recreate_beside (m := m) report (·.edited edits) 0 owner changed
    rw [create_beside] at ends
    rw [← keys] at present ⊢
    have gives := create_gives_way report present
    rw [child_beside_read report _ 1 read (drifted live read)]
    exact ⟨ends.1 ▸ gives.kept, ends.2 ▸ gives.told⟩

theorem note_on_stray_account_stays :
    let r := Round.ofGateway "lab" "1"
    let m := (Memory.empty.insert Child.stray).2
    let c : Child := .serviceAccount (Gateway.plain "team" "lab" "1").serviceAccount
    let edits := [Edit.mutate c.key (Child.annotate "note" "keep")]
    ∃ theirs, (m.edited edits).object? c.key = some theirs ∧ m.object? c.key ≠ some theirs ∧
      GivesWay c.key theirs {}
        ((child r.owner {} c).run.runBeside handle (·.edited edits) 1 m) := by
  intro r m c edits
  have reachable : Reachable m := .edit (.insert Child.stray) .empty
  have drifted : ∀ live, m.get c.key = some live →
      live.isConverged (c.prepare r.owner) r.owner = false := by
    intro live read
    cases read
    rfl
  obtain ⟨gives, _⟩ := others_object_stays_unless_recreated r.owner c {} reachable drifted
  have stray : ∃ live, m.object? c.key = some live := ⟨_, rfl⟩
  obtain ⟨theirs, present, new⟩ := exists_mutated stray reachable.versioned
    (Child.annotate "note" "keep")
  refine ⟨theirs, present, new, (gives edits theirs present new).1 ?_⟩
  rintro ⟨live, read, changed⟩
  cases read
  cases changed

def formerBinding (g : Gateway) (d : Defaults) : Child :=
  .roleBinding { g.roleBinding d with
    roleRef := { (g.roleBinding d).roleRef with name := "former" } }

/-- Another client notes something on such a binding after the pass has read it. The binding is deleted
with the note, and the pass counts a creation and no race. -/
theorem note_on_former_binding_is_lost :
    let r := Round.ofGateway "lab" "1"
    let g := Gateway.plain "team" "lab" "1"
    let m := (Memory.empty.insert (formerBinding g default)).2
    let c : Child := .roleBinding (g.roleBinding default)
    let edits := [Edit.mutate c.key (Child.annotate "note" "keep")]
    let out := (child r.owner {} c).run.runBeside handle (·.edited edits) 1 m
    Reachable m ∧ c ∈ r.set.toList ∧
      ∃ theirs final, (m.edited edits).object? c.key = some theirs ∧ m.object? c.key ≠ some theirs ∧
        out.state.object? c.key ≠ some theirs ∧
          out.value = .ok final ∧ final.created = 1 ∧ final.raced = 0 := by
  intro r g m c edits out
  let desired := c.prepare r.owner
  have keys : desired.key = c.key := Child.key_prepare c r.owner
  obtain ⟨live, read⟩ : ∃ live, m.get c.key = some live := ⟨_, rfl⟩
  have reachable : Reachable m := .edit (.insert (formerBinding g default)) .empty
  have known : Versioned (m.edited edits) := reachable.versioned.advances (advances_edited m edits)
  obtain ⟨theirs, present, new⟩ := exists_mutated ⟨live, object?_of_get read⟩ reachable.versioned
    (Child.annotate "note" "keep")
  have drifted : live.isConverged desired r.owner = false := by
    cases read
    rfl
  have changed : Child.roleChanged live desired = true := by
    cases read
    rfl
  have ran : out = (update live desired r.owner {}).run.run handle (m.edited edits) :=
    (child_beside_read {} _ 0 read drifted).trans (update_beside {} _)
  have gone : ((m.edited edits).delete desired.key).object? desired.key = none := by
    rw [object?_delete, if_pos rfl]
  have works : desired.kind ∉ ((m.edited edits).delete desired.key).failing := by
    rw [(advances_delete _ _).failing, (advances_edited m edits).failing]
    exact List.not_mem_nil
  have made := (recreate_run {} r.owner changed).2.trans (create_succeeds {} works gone).2
  obtain ⟨created, _, _, raced⟩ := observe_counters { ({} : Report) with created := 1 }
    (some (.created (((m.edited edits).delete desired.key).version + 1) desired))
  refine ⟨reachable, .tail _ (.head _), theirs, _, present, new, ?_, ran ▸ made, created, raced⟩
  rw [ran, ← keys]
  exact recreate_overwrites {} changed known (keys ▸ present)

end Converge

end JupyterWorkloads
