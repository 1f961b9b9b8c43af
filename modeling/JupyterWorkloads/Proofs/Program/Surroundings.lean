import JupyterWorkloads.Program

/-! Programs among others. What a program ensures while others may change the state before each of its
requests and after the last, what it promises whatever the answers are, and the runs of two programs
whose requests are interleaved in any order. -/
namespace JupyterWorkloads.Program

variable {I : Interface} {σ α β : Type}

/-- The program ends with the postcondition when others change the state as relied on. -/
def Ensures (handle : (r : I.Request) → σ → I.Answer r × σ) (rely : σ → σ → Prop)
    (post : α → σ → Prop) : Program I α → σ → Prop
  | done a, s => ∀ t, rely s t → post a t
  | note _ rest, s => Ensures handle rely post rest s
  | ask r next, s => ∀ t, rely s t →
      Ensures handle rely post (next (handle r t).1) (handle r t).2

/-- Whatever the answers are, the program makes only the requests it may and gives such a result. -/
def Promises (may : I.Request → Prop) (post : α → Prop) : Program I α → Prop
  | done a => post a
  | note _ rest => Promises may post rest
  | ask r next => may r ∧ ∀ answer, Promises may post (next answer)

def requests (handle : (r : I.Request) → σ → I.Answer r × σ) : Program I α → σ → List I.Request
  | done _, _ => []
  | note _ rest, s => requests handle rest s
  | ask r next, s => r :: requests handle (next (handle r s).1) (handle r s).2

/-- Two programs run on one state, their requests taken in any order, with both results and the state
at the end. -/
inductive Interleaved (handle : (r : I.Request) → σ → I.Answer r × σ) :
    Program I α → Program I β → σ → α → β → σ → Prop where
  | done {a : α} {b : β} {s : σ} : Interleaved handle (done a) (done b) s a b s
  | noteLeft {line : LogLine} {p : Program I α} {q : Program I β} {s t : σ} {a : α} {b : β} :
      Interleaved handle p q s a b t → Interleaved handle (note line p) q s a b t
  | noteRight {line : LogLine} {p : Program I α} {q : Program I β} {s t : σ} {a : α} {b : β} :
      Interleaved handle p q s a b t → Interleaved handle p (note line q) s a b t
  | askLeft {r : I.Request} {next : I.Answer r → Program I α} {q : Program I β} {s t : σ} {a : α}
      {b : β} :
      Interleaved handle (next (handle r s).1) q (handle r s).2 a b t →
        Interleaved handle (ask r next) q s a b t
  | askRight {r : I.Request} {p : Program I α} {next : I.Answer r → Program I β} {s t : σ} {a : α}
      {b : β} :
      Interleaved handle p (next (handle r s).1) (handle r s).2 a b t →
        Interleaved handle p (ask r next) s a b t

section Runs

variable (handle : (r : I.Request) → σ → I.Answer r × σ) (p : Program I α) (f : α → Program I β) (s : σ)

theorem value_bind : ((p.bind f).run handle s).value =
    ((f (p.run handle s).value).run handle (p.run handle s).state).value := by
  induction p generalizing s with
  | done a => rfl
  | note line rest ih => exact ih s
  | ask r next ih => exact ih _ _

theorem state_bind : ((p.bind f).run handle s).state =
    ((f (p.run handle s).value).run handle (p.run handle s).state).state := by
  induction p generalizing s with
  | done a => rfl
  | note line rest ih => exact ih s
  | ask r next ih => exact ih _ _

theorem requests_bind : (p.bind f).requests handle s = p.requests handle s ++
    (f (p.run handle s).value).requests handle (p.run handle s).state := by
  induction p generalizing s with
  | done a => rfl
  | note line rest ih => exact ih s
  | ask r next ih => exact congrArg (r :: ·) (ih _ _)

variable {handle} {r : I.Request} {next : I.Answer r → Program I α} {answer : I.Answer r} {s t : σ}

theorem run_ask (h : handle r s = (answer, t)) :
    (ask r next).run handle s = (next answer).run handle t := by
  rw [run, h]

theorem requests_ask (h : handle r s = (answer, t)) :
    (ask r next).requests handle s = r :: (next answer).requests handle t := by
  rw [requests, h]

end Runs

section Ensures

variable {handle : (r : I.Request) → σ → I.Answer r × σ} {rely : σ → σ → Prop} {p : Program I α}
  {s t : σ}

theorem Ensures.of_rely {post : α → σ → Prop} (trans : ∀ {a b c}, rely a b → rely b c → rely a c)
    (before : rely s t) (h : p.Ensures handle rely post s) : p.Ensures handle rely post t := by
  induction p with
  | done a => exact fun u after => h u (trans before after)
  | note line rest ih => exact ih h
  | ask r next ih => exact fun u after => h u (trans before after)

theorem Ensures.mono {post post' : α → σ → Prop} (imp : ∀ a t, post a t → post' a t)
    (h : p.Ensures handle rely post s) : p.Ensures handle rely post' s := by
  induction p generalizing s with
  | done a => exact fun t after => imp a t (h t after)
  | note line rest ih => exact ih h
  | ask r next ih => exact fun t after => ih _ (h t after)

theorem Ensures.bind {post : α → σ → Prop} {post' : β → σ → Prop} {f : α → Program I β}
    (refl : ∀ s, rely s s) (h : p.Ensures handle rely post s)
    (after : ∀ a t, post a t → (f a).Ensures handle rely post' t) :
    (p.bind f).Ensures handle rely post' s := by
  induction p generalizing s with
  | done a => exact after a s (h s (refl s))
  | note line rest ih => exact ih h
  | ask r next ih => exact fun t relied => ih _ (h t relied)

theorem Ensures.run {post : α → σ → Prop} (refl : ∀ s, rely s s)
    (h : p.Ensures handle rely post s) :
    post (p.run handle s).value (p.run handle s).state := by
  induction p generalizing s with
  | done a => exact h s (refl s)
  | note line rest ih => exact ih h
  | ask r next ih => exact ih _ (h s (refl s))

end Ensures

section Promises

variable {may : I.Request → Prop} {p : Program I α}

theorem Promises.mono {may' : I.Request → Prop} {post post' : α → Prop}
    (requests : ∀ r, may r → may' r) (results : ∀ a, post a → post' a)
    (h : p.Promises may post) : p.Promises may' post' := by
  induction p with
  | done a => exact results a h
  | note line rest ih => exact ih h
  | ask r next ih => exact ⟨requests r h.1, fun answer => ih answer (h.2 answer)⟩

theorem Promises.bind {post : α → Prop} {post' : β → Prop} {f : α → Program I β}
    (h : p.Promises may post) (after : ∀ a, post a → (f a).Promises may post') :
    (p.bind f).Promises may post' := by
  induction p with
  | done a => exact after a h
  | note line rest ih => exact ih h
  | ask r next ih => exact ⟨h.1, fun answer => ih answer (h.2 answer)⟩

theorem promises_anything (p : Program I α) : p.Promises (fun _ => True) fun _ => True := by
  induction p with
  | done a => trivial
  | note line rest ih => exact ih
  | ask r next ih => exact ⟨trivial, ih⟩

theorem Promises.value {post : α → Prop} {handle : (r : I.Request) → σ → I.Answer r × σ} {s : σ}
    (h : p.Promises may post) : post (p.run handle s).value := by
  induction p generalizing s with
  | done a => exact h
  | note line rest ih => exact ih h
  | ask r next ih => exact ih _ (h.2 _)

end Promises

section Interleaved

variable {handle : (r : I.Request) → σ → I.Answer r × σ} {p : Program I α} {q : Program I β}
  {s t : σ} {a : α} {b : β}

theorem Interleaved.symm (h : Interleaved handle p q s a b t) : Interleaved handle q p s b a t := by
  induction h with
  | done => exact .done
  | noteLeft _ ih => exact .noteRight ih
  | noteRight _ ih => exact .noteLeft ih
  | askLeft _ ih => exact .askRight ih
  | askRight _ ih => exact .askLeft ih

theorem Interleaved.alone (q : Program I β) (s : σ) (a : α) :
    Interleaved handle (Program.done a) q s a (q.run handle s).value (q.run handle s).state := by
  induction q generalizing s with
  | done b => exact .done
  | note line rest ih => exact .noteRight (ih s)
  | ask r next ih => exact .askRight (ih _ _)

theorem Interleaved.sequence (p : Program I α) (q : Program I β) (s : σ) :
    Interleaved handle p q s (p.run handle s).value
      (q.run handle (p.run handle s).state).value (q.run handle (p.run handle s).state).state := by
  induction p generalizing s with
  | done a => exact Interleaved.alone q s a
  | note line rest ih => exact .noteLeft (ih s)
  | ask r next ih => exact .askLeft (ih _ _)

/-- A program ends as it ensures when every request of the other is one to rely on. -/
theorem Interleaved.ensures {rely : σ → σ → Prop} {post : α → σ → Prop} {may : I.Request → Prop}
    {any : β → Prop} (refl : ∀ s, rely s s) (trans : ∀ {a b c}, rely a b → rely b c → rely a c)
    (others : ∀ r s, may r → rely s (handle r s).2) (h : Interleaved handle p q s a b t)
    (promises : q.Promises may any) (ensures : p.Ensures handle rely post s) : post a t := by
  induction h with
  | done => exact ensures _ (refl _)
  | noteLeft _ ih => exact ih promises ensures
  | noteRight _ ih => exact ih promises ensures
  | askLeft _ ih => exact ih promises (ensures _ (refl _))
  | @askRight r _ _ s _ _ _ _ ih =>
    exact ih (promises.2 _) (ensures.of_rely trans (others r s promises.1))

theorem Interleaved.stable {rely : σ → σ → Prop} {mayLeft mayRight : I.Request → Prop}
    {anyLeft : α → Prop} {anyRight : β → Prop} (refl : ∀ s, rely s s)
    (trans : ∀ {a b c}, rely a b → rely b c → rely a c)
    (left : ∀ r s, mayLeft r → rely s (handle r s).2)
    (right : ∀ r s, mayRight r → rely s (handle r s).2) (h : Interleaved handle p q s a b t)
    (promises : p.Promises mayLeft anyLeft) (promises' : q.Promises mayRight anyRight) :
    rely s t := by
  induction h with
  | done => exact refl _
  | noteLeft _ ih => exact ih promises promises'
  | noteRight _ ih => exact ih promises promises'
  | @askLeft r _ _ s _ _ _ _ ih =>
    exact trans (left r s promises.1) (ih (promises.2 _) promises')
  | @askRight r _ _ s _ _ _ _ ih =>
    exact trans (right r s promises'.1) (ih promises (promises'.2 _))

end Interleaved

end JupyterWorkloads.Program
