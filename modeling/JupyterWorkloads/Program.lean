import JupyterWorkloads.Log

/-! Programs that ask the outside world one request at a time. The same program runs against a
store in memory, against an API server, one step at a time between the steps of another, or against
any answers at all. -/
namespace JupyterWorkloads

/-- What may be asked, and the type of the answer to each request. -/
structure Interface where
  Request : Type
  Answer : Request → Type

def Interface.sum (I J : Interface) : Interface where
  Request := I.Request ⊕ J.Request
  Answer
    | .inl r => I.Answer r
    | .inr r => J.Answer r

inductive Program (I : Interface) (α : Type) where
  | done (value : α)
  | note (line : LogLine) (rest : Program I α)
  | ask (request : I.Request) (next : I.Answer request → Program I α)

/-- How a run ended: its result, the state it left and what it logged. -/
structure Outcome (σ α : Type) where
  value : α
  state : σ
  log : List LogLine

namespace Program

variable {I J : Interface} {σ α β γ : Type}

def bind : Program I α → (α → Program I β) → Program I β
  | done a, f => f a
  | note line rest, f => note line (bind rest f)
  | ask r next, f => ask r fun a => bind (next a) f

instance : Monad (Program I) where
  pure := done
  bind := bind

theorem bind_done (p : Program I α) : p.bind done = p := by
  induction p with
  | done a => rfl
  | note line rest ih => exact congrArg (note line) ih
  | ask r next ih => exact congrArg (ask r) (funext ih)

theorem bind_assoc (p : Program I α) (f : α → Program I β) (g : β → Program I γ) :
    (p.bind f).bind g = p.bind fun a => (f a).bind g := by
  induction p with
  | done a => rfl
  | note line rest ih => exact congrArg (note line) ih
  | ask r next ih => exact congrArg (ask r) (funext ih)

instance : LawfulMonad (Program I) :=
  LawfulMonad.mk' _ (fun p => bind_done p) (fun _ _ => rfl) bind_assoc

/-- Asks one request and returns its answer. -/
def call (r : I.Request) : Program I (I.Answer r) := ask r done

def log (level : LogLevel) (message : String) : Program I Unit := note ⟨level, message⟩ (done ())

/-- Runs a program with a handler that answers each request and changes the state. -/
def run (handle : (r : I.Request) → σ → I.Answer r × σ) : Program I α → σ → Outcome σ α
  | done a, s => ⟨a, s, []⟩
  | note line rest, s =>
    let out := run handle rest s
    { out with log := line :: out.log }
  | ask r next, s =>
    let (answer, s) := handle r s
    run handle (next answer) s

/-- Answers each request of a program with a program of another interface. -/
def through (answer : (r : I.Request) → Program J (I.Answer r)) : Program I α → Program J α
  | done a => done a
  | note line rest => note line (through answer rest)
  | ask r next => (answer r).bind fun a => through answer (next a)

def left (p : Program I α) : Program (I.sum J) α :=
  p.through fun r => @call (I.sum J) (.inl r)

def right (p : Program J α) : Program (I.sum J) α :=
  p.through fun r => @call (I.sum J) (.inr r)

/-- The next request with what follows its answer, if the program is not at its end; log lines on the
way are passed. -/
def next? : Program I α → Option ((r : I.Request) × (I.Answer r → Program I α))
  | done _ => none
  | note _ rest => next? rest
  | ask r next => some ⟨r, next⟩

end Program

end JupyterWorkloads
