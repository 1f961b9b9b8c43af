import JupyterWorkloads.Proofs.Parent.Generation

/-! What generation reads and what is watched for it. A generator makes its lookups in a fixed order up to
the first that fails, and nothing else that is outside the parent decides what it gives. The objects it
looks up are exactly those whose changes ask for the parent. -/
namespace JupyterWorkloads

namespace Resolver

def finds (r : Resolver) (l : Lookup) : Bool :=
  match l.kind, r l with
  | .kernelSpec, .ok (.kernelSpec _) => true
  | .kernelTemplate, .ok (.kernelTemplate _) => true
  | _, _ => false

/-- The lookups up to the first that fails, this one included. -/
def through (r : Resolver) : List Lookup → List Lookup
  | [] => []
  | l :: rest => l :: if r.finds l then through r rest else []

def answer (r : Resolver) : (l : Lookups.Request) → Unit → Lookups.Answer l × Unit :=
  fun l kept => (r l, kept)

variable (r : Resolver)

theorem subset_through (ls : List Lookup) : r.through ls ⊆ ls := by
  induction ls with
  | nil => exact List.Subset.refl _
  | cons l rest ih =>
    rw [through]
    split
    · exact List.cons_subset_cons l ih
    · exact List.cons_subset_cons l (List.nil_subset rest)

/-- A lookup of the list is reached when all before it succeed. -/
theorem mem_through {l : Lookup} {ls : List Lookup} (listed : l ∈ ls)
    (succeed : ∀ before ∈ (r.through ls).takeWhile (· ≠ l), r.finds before = true) :
    l ∈ r.through ls := by
  induction ls with
  | nil => cases listed
  | cons first rest ih =>
    rw [through] at succeed ⊢
    by_cases here : first = l
    · rw [here]
      exact List.mem_cons_self
    · rw [List.takeWhile_cons_of_pos (by simpa using here)] at succeed
      have found := succeed first List.mem_cons_self
      rw [if_pos found] at succeed ⊢
      have later : l ∈ rest := (List.mem_cons.mp listed).resolve_left (Ne.symm here)
      exact .tail _ (ih later fun before hb => succeed before (.tail _ hb))

end Resolver

namespace Generating

variable {α : Type}

def lookups (r : Resolver) (g : Generating α) : List Lookup := g.run.requests r.answer ()

theorem resolve_eq (r : Resolver) (g : Generating α) : resolve r g =
    ⟨(g.run.run r.answer ()).value, lookups r g, (g.run.run r.answer ()).log⟩ := by
  suffices all : ∀ (p : Generating α) (made : List Lookup),
      p.run.run (fun (l : Lookup) (made : List Lookup) => (r l, made ++ [l])) made =
        ⟨(p.run.run r.answer ()).value, made ++ lookups r p, (p.run.run r.answer ()).log⟩ from
    all g []
  intro p
  induction p with
  | done a => exact fun made => congrArg (Outcome.mk _ · _) (List.append_nil made).symm
  | note line rest ih =>
    exact fun made => congrArg (fun out : Outcome _ _ => { out with log := line :: out.log }) (ih made)
  | ask l next ih =>
    intro made
    refine (ih (r l) _).trans (congrArg (Outcome.mk _ · _) ?_)
    exact List.append_assoc made [_] _

/-- Resolvers that agree on the lookups a generator makes give the same run of it. -/
theorem resolve_congr {r r' : Resolver} {g : Generating α}
    (agree : ∀ l ∈ lookups r g, r l = r' l) : resolve r g = resolve r' g := by
  suffices all : ∀ p : Generating α, (∀ l ∈ lookups r p, r l = r' l) →
      p.run.run r.answer () = p.run.run r'.answer () ∧ lookups r p = lookups r' p by
    obtain ⟨same, made⟩ := all g agree
    rw [resolve_eq, resolve_eq, same, made]
  intro p
  induction p with
  | done a => exact fun _ => ⟨rfl, rfl⟩
  | note line rest ih =>
    intro agree
    obtain ⟨same, made⟩ := ih agree
    exact ⟨congrArg (fun out : Outcome _ _ => { out with log := line :: out.log }) same, made⟩
  | ask l next ih =>
    intro agree
    obtain ⟨same, made⟩ := ih (r l) fun later hl => agree later (.tail _ hl)
    have here : r l = r' l := agree l List.mem_cons_self
    rw [here] at same made
    refine ⟨?_, ?_⟩
    · show (next (r l)).run r.answer () = _
      rw [here]
      exact same
    · show l :: (next (r l)).requests r.answer () = _
      rw [here]
      exact congrArg (l :: ·) made

section Lookups

variable {β : Type} (r : Resolver)

theorem lookups_bind {g : Generating α} {f : α → Generating β} (quiet : ∀ a, lookups r (f a) = []) :
    lookups r (g >>= f) = lookups r g := by
  refine (Program.requests_bind r.answer g.run _ ()).trans ?_
  refine (congrArg (lookups r g ++ ·) ?_).trans (List.append_nil _)
  cases (g.run.run r.answer ()).value with
  | error e => rfl
  | ok a => exact quiet a

theorem lookups_ofExcept (result : Except InvalidSpec α) : lookups r (ofExcept result) = [] := by
  cases result <;> rfl

theorem lookups_ofResolving (p : Resolving α) :
    lookups r (ofResolving p) = p.run.requests r.answer () :=
  (Program.requests_bind r.answer p.run _ ()).trans (List.append_nil _)

end Lookups

end Generating

open Generating

theorem Lookups.kernelTemplate_run (ns name : String) : (Lookups.kernelTemplate ns name).run =
    .ask ⟨.kernelTemplate, ns, name⟩ fun
      | .ok (.kernelTemplate template) => .done (.ok template)
      | .ok (.kernelSpec _) => .done (.error (.unexpectedKind ⟨.kernelTemplate, ns, name⟩))
      | .error e => .done (.error e) := by
  refine congrArg (Program.ask (I := Lookups) _) (funext fun answer => ?_)
  rcases answer with _ | _ | _ <;> rfl

theorem Gateway.resolveAll_run_cons (ns name : String) (rest : List String) :
    (resolveAll ns (name :: rest)).run =
      .ask ⟨.kernelSpec, ns, name⟩ fun
        | .ok (.kernelSpec _) => (resolveAll ns rest).run
        | .ok (.kernelTemplate _) => .done (.error (.unexpectedKind ⟨.kernelSpec, ns, name⟩))
        | .error e => .done (.error e) := by
  refine congrArg (Program.ask (I := Lookups) _) (funext fun answer => ?_)
  rcases answer with _ | _ | _ <;> rfl

theorem Gateway.lookups_resolveAll (r : Resolver) (ns : String) (names : List String) :
    (resolveAll ns names).run.requests r.answer () =
      r.through (names.map fun name => ⟨.kernelSpec, ns, name⟩) := by
  induction names with
  | nil => rfl
  | cons name rest ih =>
    simp only [resolveAll_run_cons, Program.requests, Resolver.answer, List.map_cons, Resolver.through,
      Resolver.finds]
    refine congrArg (List.cons _) ?_
    split
    · next found =>
      simp only [found]
      exact ih
    · next found =>
      simp only [found]
      rfl
    · next found =>
      simp only [found]
      rfl

def KernelTemplate.plain (ns name : String) : KernelTemplate where
  metadata := { (default : ObjectMeta) with name := some name, ns := some ns }
  spec := { template := none }

theorem ObjectMeta.anyName_of_name {m : ObjectMeta} {name : String} (given : m.name = some name) :
    m.anyName = name := by
  rw [anyName, given]
  rfl

namespace Parent

/-- The lookups of a generation, in order, when all of them succeed. -/
def references : Parent → List Lookup
  | gateway g => g.kernelNames.map fun name => ⟨.kernelSpec, g.ns, name⟩
  | kernel k =>
    if k.spec.template.isSome then []
    else k.spec.templateRef.toList.map fun ref => ⟨.kernelTemplate, k.ns, ref.name⟩
  | kernelSpec _ => []
  | notebook _ => []

/-- Whenever the object of the lookup changes, the parent is asked for. -/
def Hears (p : Parent) (l : Lookup) : Prop :=
  match p, l.kind with
  | gateway g, .kernelSpec => ∃ spec : KernelSpec,
    spec.metadata.ns = some l.ns ∧ spec.metadata.name = some l.name ∧ g ∈ gatewaysUsing [g] spec
  | kernel k, .kernelTemplate => ∃ template : KernelTemplate,
    template.metadata.ns = some l.ns ∧ template.metadata.name = some l.name ∧
      k ∈ kernelsUsing [k] template
  | _, _ => False

/-- Generation makes the lookups of the parent up to the first that fails. -/
theorem lookups_generate (p : Parent) (d : Defaults) (r : Resolver) :
    lookups r (p.generate d) = r.through p.references := by
  cases p with
  | gateway g =>
    refine (lookups_bind r fun _ => rfl).trans ?_
    rw [lookups_ofResolving, Gateway.lookups_resolveAll, references]
  | kernelSpec k => rfl
  | kernel k =>
    obtain ⟨_, ⟨_, _ | ref, _ | t⟩, _⟩ := k
    · rfl
    · exact lookups_ofExcept r _
    · refine (lookups_bind r ?_).trans ?_
      · intro found
        cases found.spec.template with
        | none => rfl
        | some t => exact lookups_ofExcept r _
      · rw [lookups_ofResolving, Lookups.kernelTemplate_run]
        simp only [Program.requests, Resolver.answer]
        refine (congrArg (List.cons _) ?_).trans (congrArg (List.cons _) (ite_self []).symm)
        split <;> rfl
    · exact lookups_ofExcept r _
  | notebook n => exact lookups_ofExcept r _

/-- The objects whose changes ask for a parent in a namespace are those it refers to. -/
theorem hears_iff {p : Parent} (placed : p.metadata.ns.isSome) (l : Lookup) :
    p.Hears l ↔ l ∈ p.references := by
  obtain ⟨ns, given⟩ := Option.isSome_iff_exists.mp placed
  obtain ⟨kind, space, name⟩ := l
  cases p with
  | kernelSpec k => cases kind <;> exact ⟨False.elim, nofun⟩
  | notebook n => cases kind <;> exact ⟨False.elim, nofun⟩
  | gateway g =>
    have given : g.metadata.ns = some ns := given
    have here : g.ns = ns := by rw [Gateway.ns, given]; rfl
    cases kind with
    | kernelTemplate => simp [Hears, references]
    | kernelSpec =>
      simp only [Hears, references, gatewaysUsing, List.mem_filter, List.mem_singleton, true_and,
        decide_eq_true_eq, List.mem_map, Lookup.mk.injEq, given, here]
      constructor
      · rintro ⟨spec, placed, named, same, used⟩
        rw [ObjectMeta.anyName_of_name named] at used
        exact ⟨name, used, Option.some.inj (same.trans placed), rfl⟩
      · rintro ⟨_, used, rfl, rfl⟩
        exact ⟨KernelSpec.plain ns _ "" none, rfl, rfl, rfl, used⟩
  | kernel k =>
    have given : k.metadata.ns = some ns := given
    have here : k.ns = ns := by rw [Kernel.ns, given]; rfl
    cases kind with
    | kernelSpec => simp [Hears, references]
    | kernelTemplate =>
      simp only [Hears, references, kernelsUsing, List.mem_filter, List.mem_singleton, true_and,
        decide_eq_true_eq, given, here]
      obtain ⟨_, ⟨_, _ | ref, _ | t⟩, _⟩ := k <;> simp
      constructor
      · rintro ⟨template, placed, named, same, used⟩
        rw [ObjectMeta.anyName_of_name named] at used
        exact ⟨Option.some.inj (placed.symm.trans same.symm), used.symm⟩
      · rintro ⟨rfl, rfl⟩
        exact ⟨KernelTemplate.plain space _, rfl, rfl, rfl, rfl⟩

end Parent

/-- A parent in a namespace is asked for whenever something changes that its generation has looked up, and
answers that agree on what it is asked for by give the same result and the same lookups. Conversely,
generation looks up all that the parent is asked for by, as long as no lookup before it fails. -/
theorem generation_reads_what_is_watched {p : Parent} (d : Defaults) (placed : p.metadata.ns.isSome) :
    (∀ (r : Resolver) (l : Lookup), l ∈ (resolve r (p.generate d)).state → p.Hears l) ∧
    (∀ r r' : Resolver, (∀ l, p.Hears l → r l = r' l) →
      resolve r (p.generate d) = resolve r' (p.generate d)) ∧
    ∀ (r : Resolver) (l : Lookup), p.Hears l →
      (∀ before ∈ (resolve r (p.generate d)).state.takeWhile (· ≠ l), r.finds before = true) →
        l ∈ (resolve r (p.generate d)).state := by
  have made : ∀ r : Resolver, (resolve r (p.generate d)).state = r.through p.references := by
    intro r
    rw [resolve_eq, Parent.lookups_generate]
  refine ⟨?_, ?_, ?_⟩
  · intro r l hl
    rw [made] at hl
    exact (Parent.hears_iff placed l).mpr (r.subset_through _ hl)
  · intro r r' agree
    apply resolve_congr
    intro l hl
    rw [Parent.lookups_generate] at hl
    exact agree l ((Parent.hears_iff placed l).mpr (r.subset_through _ hl))
  · intro r l heard succeed
    rw [made] at succeed ⊢
    exact r.mem_through ((Parent.hears_iff placed l).mp heard) succeed

theorem second_kernel_is_looked_up :
    let g : Gateway := { Gateway.plain "team" "lab" "1" with
      spec := { (default : Gateway.Spec) with kernels := some ["python", "r"] } }
    let r : Resolver := fun l =>
      if l.name = "python" then .ok (.kernelSpec (KernelSpec.plain "team" "python" "2" none))
      else .error (.notFound l)
    let r' : Resolver := fun l => if l.ns = "team" then r l else .error (.unexpectedKind l)
    (Parent.gateway g).metadata.ns.isSome ∧
    (Parent.gateway g).Hears ⟨.kernelSpec, "team", "r"⟩ ∧
      (⟨.kernelSpec, "team", "r"⟩ : Lookup) ∈ (resolve r (g.generate default)).state ∧
        resolve r (g.generate default) = resolve r' (g.generate default) := by
  intro g r r'
  have placed : (Parent.gateway g).metadata.ns.isSome := rfl
  obtain ⟨_, same, reached⟩ := generation_reads_what_is_watched default placed
  have heard : (Parent.gateway g).Hears ⟨.kernelSpec, "team", "r"⟩ := by
    rw [Parent.hears_iff placed]
    decide
  refine ⟨placed, heard, reached r _ heard ?_, same r r' ?_⟩
  · decide
  · intro l hl
    rw [Parent.hears_iff placed] at hl
    obtain ⟨name, _, rfl⟩ := List.mem_map.mp hl
    rfl

end JupyterWorkloads
