import JupyterWorkloads.Proofs.Converge.Reliable

/-! Passes of different parents do not interfere. However their requests are interleaved, each pass finds
and leaves its own children as if it ran alone, so every order gives the same results and the same
objects but for what depends on the versions given out. -/
namespace JupyterWorkloads

namespace Child

def unaddressed : Child → Child
  | .service o => .service { o with spec := o.spec.map ServiceSpec.unaddressed }
  | other => other

/-- The object without its version, its uid and its addresses. -/
def anonymous (c : Child) : Child :=
  c.unaddressed.mapMetadata fun m => { m with resourceVersion := none, uid := none }

end Child

namespace Converge

open Store Memory

/-- Stored objects that are the same, or one child admitted under two new versions. -/
inductive Alike (since : Nat) : Option Child → Option Child → Prop where
  | same {slot : Option Child} : Alike since slot slot
  | admitted {version other : Nat} {next : Child} : since < version → since < other →
      Alike since (some (admitted version next)) (some (admitted other next))

structure ReportsAlike (since : Nat) (a b : Report) : Prop where
  created : a.created = b.created
  updated : a.updated = b.updated
  unchanged : a.unchanged = b.unchanged
  raced : a.raced = b.raced
  deployment : Alike since (a.deployment.map .deployment) (b.deployment.map .deployment)

def ResultsAlike (since : Nat) :
    Except ReconcileError Report → Except ReconcileError Report → Prop
  | .ok a, .ok b => ReportsAlike since a b
  | .error e, .error e' => e = e'
  | _, _ => False

section Alike

variable {since version other : Nat}

/-- Objects that are alike differ in their versions, uids and addresses at most. -/
theorem Alike.anonymous {a b : Option Child} (h : Alike since a b) :
    a.map Child.anonymous = b.map Child.anonymous := by
  cases h with
  | same => rfl
  | @admitted version other next _ _ =>
    cases next <;>
      simp only [Option.map_some, Memory.admitted, Child.anonymous, Child.unaddressed, fillIn, rollOut,
        Child.mapMetadata, Child.withMetadata, Child.metadata, Child.unaddressed_allocate]

theorem observe_alike {a b : Report} (h : ReportsAlike since a b) {live live' : Child}
    (alike : Alike since (some live) (some live')) :
    ReportsAlike since (a.observe (some live)) (b.observe (some live')) := by
  cases alike with
  | same =>
    cases live with
    | deployment o => exact ⟨h.created, h.updated, h.unchanged, h.raced, .same⟩
    | _ => exact h
  | @admitted version other next new new' =>
    cases next with
    | deployment o =>
      have seen : Alike since (some (Memory.admitted version (.deployment o)))
          (some (Memory.admitted other (.deployment o))) := .admitted new new'
      exact ⟨h.created, h.updated, h.unchanged, h.raced, seen⟩
    | _ => exact h

variable {owner : OwnerReference} {m m₁ m₂ : Memory} {a b : Report}

theorem creation_alike (new : m.version < version) (new' : m.version < other) (desired : Child)
    (h : ReportsAlike m.version a b) (slot : Option Child) :
    ResultsAlike m.version (creation m version desired a slot).1
        (creation m other desired b slot).1 ∧
      Alike m.version (creation m version desired a slot).2 (creation m other desired b slot).2 := by
  unfold creation
  split
  · exact ⟨rfl, .same⟩
  · cases slot with
    | some live => exact ⟨⟨h.created, h.updated, h.unchanged, congrArg (· + 1) h.raced, h.deployment⟩, .same⟩
    | none =>
      have stored : Alike m.version (some (Child.created version desired))
          (some (Child.created other desired)) := .admitted new new'
      refine ⟨observe_alike ?_ stored, stored⟩
      exact ⟨congrArg (· + 1) h.created, h.updated, h.unchanged, h.raced, h.deployment⟩

/-- The outcome for a child depends on the version it is stored as in nothing else. -/
theorem settlement_alike (owner : OwnerReference) (new : m.version < version)
    (new' : m.version < other) (desired : Child) (h : ReportsAlike m.version a b) :
    ResultsAlike m.version (settlement m version owner a desired).1
        (settlement m other owner b desired).1 ∧
      Alike m.version (settlement m version owner a desired).2
        (settlement m other owner b desired).2 := by
  unfold settlement
  cases m.get desired.key with
  | none => exact creation_alike new new' desired h _
  | some live =>
    dsimp only
    split
    · refine ⟨observe_alike ?_ .same, .same⟩
      exact ⟨h.created, h.updated, congrArg (· + 1) h.unchanged, h.raced, h.deployment⟩
    · split
      · exact creation_alike new new' desired h none
      · split
        · exact ⟨rfl, .same⟩
        · have stored : Alike m.version (some (Child.replaced version live desired owner))
              (some (Child.replaced other live desired owner)) := .admitted new new'
          refine ⟨observe_alike ?_ stored, stored⟩
          exact ⟨h.created, congrArg (· + 1) h.updated, h.unchanged, h.raced, h.deployment⟩

theorem Passed.alike {cs : List Child} {r₁ r₂ : Except ReconcileError Report}
    (first : Passed owner m m₁ a cs r₁) (second : Passed owner m m₂ b cs r₂)
    (h : ReportsAlike m.version a b) : ResultsAlike m.version r₁ r₂ ∧
      ∀ c ∈ cs, Alike m.version (m₁.object? c.key) (m₂.object? c.key) := by
  induction first generalizing b with
  | nil =>
    cases second
    refine ⟨h, ?_⟩
    intro c hc
    cases hc
  | @stop a c rest version e new out others =>
    cases second with
    | @stop _ _ _ other e' new' out' others' =>
      have ends := settlement_alike owner new new' (c.prepare owner) h
      rw [← out, ← out'] at ends
      refine ⟨ends.1, ?_⟩
      intro d hd
      rcases List.mem_cons.mp hd with rfl | hd
      · exact ends.2
      · rw [others d hd, others' d hd]
        exact .same
    | @step _ next _ _ other _ new' out' _ =>
      have ends := settlement_alike owner new new' (c.prepare owner) h
      rw [← out, ← out'] at ends
      exact ends.1.elim
  | @step a next c rest version result new out _ ih =>
    cases second with
    | @stop _ _ _ other e' new' out' others' =>
      have ends := settlement_alike owner new new' (c.prepare owner) h
      rw [← out, ← out'] at ends
      exact ends.1.elim
    | @step _ next' _ _ other _ new' out' tail =>
      have ends := settlement_alike owner new new' (c.prepare owner) h
      rw [← out, ← out'] at ends
      have rest := ih tail ends.1
      refine ⟨rest.1, ?_⟩
      intro d hd
      rcases List.mem_cons.mp hd with rfl | hd
      · exact ends.2
      · exact rest.2 d hd

end Alike

section Interleaving

def Round.keys (r : Round) (key : ChildKey) : Prop := ∃ c ∈ r.set.toList, c.key = key

def Round.program (r : Round) : Action (Except ReconcileError Report) :=
  (converge r.owner r.set).run

def Round.Apart (r s : Round) : Prop :=
  (r.parent.ns, r.parent.name) ≠ (s.parent.ns, s.parent.name)

variable {r s : Round}

theorem Round.Apart.disjoint (apart : r.Apart s) {key : ChildKey} (mine : r.keys key) :
    ¬ s.keys key := by
  obtain ⟨c, hc, rfl⟩ := mine
  rintro ⟨d, hd, same⟩
  rw [r.generated.key_eq hc, s.generated.key_eq hd] at same
  apply apart
  exact Prod.ext (congrArg ChildKey.ns same).symm (congrArg ChildKey.name same).symm

variable {m m' : Memory} {a b : Except ReconcileError Report}

/-- However two passes of different parents are interleaved, the first settles its children from what
was stored at the start. -/
theorem passed_of_interleaved (apart : r.Apart s)
    (run : Program.Interleaved handle r.program s.program m a b m') :
    Passed r.owner m m' {} r.set.toList a := by
  have promises : About s.keys s.program := children_about s.owner {} s.set.toList
  have ensures : r.program.Ensures handle (Keeps r.keys) _ m :=
    children_ensures r.owner {} m (fun c hc => r.generated.fresh hc) (fun c hc => ⟨c, hc, rfl⟩)
      r.generated.distinct
  refine (run.ensures (Keeps.refl r.keys) Keeps.trans ?_ promises ensures).1
  intro call n about
  refine (keeps_handle call n).mono ?_
  intro key mine same
  exact apart.disjoint mine (same ▸ about)

theorem keeps_of_interleaved (run : Program.Interleaved handle r.program s.program m a b m') :
    Keeps (fun key => ¬ r.keys key ∧ ¬ s.keys key) m m' := by
  have promises : About r.keys r.program := children_about r.owner {} r.set.toList
  have promises' : About s.keys s.program := children_about s.owner {} s.set.toList
  refine run.stable (Keeps.refl _) Keeps.trans ?_ ?_ promises promises'
  · intro call n about
    refine (keeps_handle call n).mono ?_
    intro key other same
    exact other.1 (same ▸ about)
  · intro call n about
    refine (keeps_handle call n).mono ?_
    intro key other same
    exact other.2 (same ▸ about)

theorem interleavings_alike (apart : r.Apart s) {m₁ m₂ : Memory}
    {a₁ b₁ a₂ b₂ : Except ReconcileError Report}
    (run : Program.Interleaved handle r.program s.program m a₁ b₁ m₁)
    (run' : Program.Interleaved handle r.program s.program m a₂ b₂ m₂) :
    ResultsAlike m.version a₁ a₂ ∧ ResultsAlike m.version b₁ b₂ ∧
      ∀ key, Alike m.version (m₁.object? key) (m₂.object? key) := by
  have start : ReportsAlike m.version {} {} := ⟨rfl, rfl, rfl, rfl, .same⟩
  have left := (passed_of_interleaved apart run).alike (passed_of_interleaved apart run') start
  have right := (passed_of_interleaved (Ne.symm apart) run.symm).alike
    (passed_of_interleaved (Ne.symm apart) run'.symm) start
  refine ⟨left.1, right.1, ?_⟩
  intro key
  by_cases mine : r.keys key
  · obtain ⟨c, hc, rfl⟩ := mine
    exact left.2 c hc
  · by_cases yours : s.keys key
    · obtain ⟨c, hc, rfl⟩ := yours
      exact right.2 c hc
    · rw [(keeps_of_interleaved run).objects key ⟨mine, yours⟩,
        (keeps_of_interleaved run').objects key ⟨mine, yours⟩]
      exact .same

end Interleaving

/-- Passes of two parents of different names or namespaces end the same in every interleaving of their
requests, over any store: with the results and the objects that they have one after the other, in either
order. Only the versions, the uids and the addresses that are given out on the way may differ. -/
theorem passes_do_not_interfere {r s : Round} (apart : r.Apart s) {m m' : Memory}
    {a b : Except ReconcileError Report}
    (run : Program.Interleaved handle r.program s.program m a b m') :
    (ResultsAlike m.version a (m.converge r.owner r.set).value ∧
      ResultsAlike m.version b ((m.converge r.owner r.set).state.converge s.owner s.set).value ∧
      ∀ key, Alike m.version (m'.object? key) ((Round.run m [r, s]).object? key) ∧
        (m'.object? key).map Child.anonymous = ((Round.run m [r, s]).object? key).map Child.anonymous) ∧
    (ResultsAlike m.version b (m.converge s.owner s.set).value ∧
      ResultsAlike m.version a ((m.converge s.owner s.set).state.converge r.owner r.set).value ∧
      ∀ key, Alike m.version (m'.object? key) ((Round.run m [s, r]).object? key) ∧
        (m'.object? key).map Child.anonymous = ((Round.run m [s, r]).object? key).map Child.anonymous) := by
  have forth : Program.Interleaved handle r.program s.program m _ _ _ := .sequence _ _ m
  have back : Program.Interleaved handle s.program r.program m _ _ _ := .sequence _ _ m
  obtain ⟨first, second, objects⟩ := interleavings_alike apart run forth
  obtain ⟨second', first', objects'⟩ := interleavings_alike (Ne.symm apart) run.symm back
  exact ⟨⟨first, second, fun key => ⟨objects key, (objects key).anonymous⟩⟩,
    ⟨second', first', fun key => ⟨objects' key, (objects' key).anonymous⟩⟩⟩

theorem notebook_read_before_gateway_pass :
    let r := Round.ofGateway "lab" "1"
    let s := Round.ofNotebook "desk" "2"
    r.Apart s ∧ ∃ a b m', Program.Interleaved handle r.program s.program Memory.empty a b m' ∧
      ResultsAlike 0 a (Memory.empty.converge r.owner r.set).value ∧
      ∀ key, Alike 0 (m'.object? key) ((Round.run Memory.empty [s, r]).object? key) := by
  intro r s
  have apart : r.Apart s := by
    show ("team", "lab") ≠ ("team", "desk")
    decide
  have run : ∃ a b m', Program.Interleaved handle r.program s.program Memory.empty a b m' :=
    ⟨_, _, _, .askRight (.sequence _ _ _)⟩
  obtain ⟨a, b, m', run⟩ := run
  have ends := passes_do_not_interfere apart run
  exact ⟨apart, a, b, m', run, ends.1.1, fun key => (ends.2.2.2 key).1⟩

end Converge

end JupyterWorkloads
