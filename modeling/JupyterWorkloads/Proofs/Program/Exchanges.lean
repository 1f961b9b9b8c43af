import JupyterWorkloads.Proofs.Program.Surroundings

/-! What programs say to the outside world. A program whose requests are answered by programs of another
interface keeps its promises when these do, handlers that agree on what a program may ask give the same
run, and a run is remembered as the requests it made with the answers they got. -/
namespace JupyterWorkloads.Program

variable {I J : Interface} {σ α β : Type}

def exchanges (handle : (r : I.Request) → σ → I.Answer r × σ) :
    Program I α → σ → List ((r : I.Request) × I.Answer r)
  | done _, _ => []
  | note _ rest, s => exchanges handle rest s
  | ask r next, s => ⟨r, (handle r s).1⟩ :: exchanges handle (next (handle r s).1) (handle r s).2

section Exchanges

variable (handle : (r : I.Request) → σ → I.Answer r × σ) (p : Program I α) (f : α → Program I β) (s : σ)

theorem exchanges_bind : (p.bind f).exchanges handle s = p.exchanges handle s ++
    (f (p.run handle s).value).exchanges handle (p.run handle s).state := by
  induction p generalizing s with
  | done a => rfl
  | note line rest ih => exact ih s
  | ask r next ih => exact congrArg (⟨r, (handle r s).1⟩ :: ·) (ih _ _)

theorem map_fst_exchanges : (p.exchanges handle s).map Sigma.fst = p.requests handle s := by
  induction p generalizing s with
  | done a => rfl
  | note line rest ih => exact ih s
  | ask r next ih => exact congrArg (r :: ·) (ih _ _)

end Exchanges

section Through

variable {answer : (r : I.Request) → Program J (I.Answer r)} {p : Program I α}

theorem through_bind (p : Program I α) (f : α → Program I β) :
    (p.bind f).through answer = (p.through answer).bind fun a => (f a).through answer := by
  induction p with
  | done a => rfl
  | note line rest ih => exact congrArg (note line) ih
  | ask r next ih =>
    show (answer r).bind _ = ((answer r).bind _).bind _
    rw [bind_assoc]
    exact congrArg _ (funext ih)

theorem Promises.through {may : I.Request → Prop} {may' : J.Request → Prop} {post : α → Prop}
    (h : p.Promises may post) (each : ∀ r, may r → (answer r).Promises may' fun _ => True) :
    (p.through answer).Promises may' post := by
  induction p with
  | done a => exact h
  | note line rest ih => exact ih h
  | ask r next ih => exact (each r h.1).bind fun a _ => ih a (h.2 a)

end Through

section Promises

variable {may : I.Request → Prop} {post : α → Prop} {p : Program I α}
  {handle handle' : (r : I.Request) → σ → I.Answer r × σ}

theorem Promises.of_mem (h : p.Promises may post) {s : σ} {r : I.Request}
    (made : r ∈ p.requests handle s) : may r := by
  induction p generalizing s with
  | done a => cases made
  | note line rest ih => exact ih h made
  | ask r next ih =>
    rcases List.mem_cons.mp made with rfl | later
    · exact h.1
    · exact ih _ (h.2 _) later

theorem Promises.map (h : p.Promises may post) (f : α → β) :
    (f <$> p).Promises may fun _ => True :=
  h.bind fun _ _ => trivial

/-- Handlers that agree on all that the program may ask give the same run of it. -/
theorem Promises.run_congr (agree : ∀ r s, may r → handle' r s = handle r s)
    (h : p.Promises may post) (s : σ) :
    p.run handle' s = p.run handle s ∧ p.requests handle' s = p.requests handle s := by
  induction p generalizing s with
  | done a => exact ⟨rfl, rfl⟩
  | note line rest ih =>
    obtain ⟨same, made⟩ := ih h s
    exact ⟨congrArg (fun out : Outcome σ α => { out with log := line :: out.log }) same, made⟩
  | ask r next ih =>
    have here := agree r s h.1
    obtain ⟨same, made⟩ := ih _ (h.2 (handle r s).1) (handle r s).2
    exact ⟨(run_ask here).trans same, (requests_ask here).trans (congrArg (r :: ·) made)⟩

end Promises

end JupyterWorkloads.Program
