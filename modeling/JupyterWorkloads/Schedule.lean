import JupyterWorkloads.Reconcile

/-! Reconciliations that are to come. A parent has at most one, at the earliest of the times that
were asked for. -/
namespace JupyterWorkloads

structure Schedule where
  /-- Parents with their times in milliseconds. -/
  entries : List (ParentKey × Nat)
  deriving DecidableEq, Inhabited

namespace Schedule

/-- Moves the entry of a key to an earlier time, or adds one at the end. -/
def hasten (key : ParentKey) (time : Nat) : List (ParentKey × Nat) → List (ParentKey × Nat)
  | [] => [(key, time)]
  | (k, planned) :: rest =>
    if k = key then (key, min planned time) :: rest else (k, planned) :: hasten key time rest

def request (s : Schedule) (key : ParentKey) (time : Nat) : Schedule := ⟨hasten key time s.entries⟩

def requestAll (s : Schedule) (keys : List ParentKey) (time : Nat) : Schedule :=
  keys.foldl (fun s key => s.request key time) s

def drop (s : Schedule) (key : ParentKey) : Schedule := ⟨Rows.erase key s.entries⟩

/-- The earlier of two entries, the first one if both have one time. -/
def earlier (a b : ParentKey × Nat) : ParentKey × Nat := if b.2 < a.2 then b else a

def first? (s : Schedule) : Option (ParentKey × Nat) :=
  match s.entries with
  | [] => none
  | entry :: rest => some (rest.foldl earlier entry)

/-- The entry with the earliest time, if that is not after the given one. -/
def due? (s : Schedule) (time : Nat) : Option (ParentKey × Nat) :=
  s.first?.filter fun entry => entry.2 ≤ time

end Schedule

end JupyterWorkloads
