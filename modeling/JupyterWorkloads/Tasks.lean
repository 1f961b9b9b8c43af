/-! Tasks that run side by side until a process has nothing left to do. A task that panics ends alone,
and some tasks wait for the signal to shut down. -/
namespace JupyterWorkloads

structure Task where
  name : String
  /-- How long the task runs. -/
  seconds : Nat
  panics : Bool
  /-- Starts at the signal and not at once. -/
  onShutdown : Bool
  deriving DecidableEq, Inhabited

namespace Task

/-- When the task starts, in milliseconds, where the signal comes at the given time. -/
def startTime (t : Task) (signal : Nat) : Nat := if t.onShutdown then signal else 0

/-- When the task has done its work, if it ever has. -/
def doneTime? (t : Task) (signal : Nat) : Option Nat :=
  if t.panics then none else some (t.startTime signal + 1000 * t.seconds)

end Task

namespace Tasks

def doneBefore (tasks : List Task) (signal : Nat) : List Task :=
  tasks.filter fun t => (t.doneTime? signal).any (· < signal)

def doneAtEnd (tasks : List Task) (signal : Nat) : List Task :=
  tasks.filter fun t => (t.doneTime? signal).isSome

end Tasks

inductive TaskError where
  /-- The signal to shut down cannot be listened for. -/
  | shutdown (reason : String)
  deriving DecidableEq, Inhabited

def TaskError.message : TaskError → String
  | shutdown reason => "Unable to listen for shutdown signals: " ++ reason

structure SignalState where
  listening : Bool := false
  deriving DecidableEq, Inhabited

/-- Listens for the signal to shut down. A process can do so once. -/
def SignalState.listen (s : SignalState) : Except TaskError SignalState :=
  if s.listening then .error (.shutdown "shutdown handler already created")
  else .ok { s with listening := true }

end JupyterWorkloads
