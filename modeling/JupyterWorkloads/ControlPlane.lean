import JupyterWorkloads.Schedule
import JupyterWorkloads.Settings
import JupyterWorkloads.Watch

/-! The control plane at work on an API server: it hears of every change, its own ones included, and
reconciles the parents that are due, one after the other. -/
namespace JupyterWorkloads

structure ControlPlane where
  settings : Settings
  server : Api.Server
  /-- The time in milliseconds. -/
  now : Nat
  schedule : Schedule
  running : Bool
  /-- The requests, other than reading ones, that were sent since the last look. -/
  writes : List Api.Request
  /-- What was logged since the last look. -/
  log : List LogLine
  deriving DecidableEq, Inhabited

def ParentKey.watchName (key : ParentKey) : String :=
  key.kind.name ++ "." ++ apiGroupVersion ++ "." ++ apiGroup ++ "/" ++ key.name ++
    match key.ns with
    | none => ""
    | some ns => "." ++ ns

namespace ControlPlane

def note (p : ControlPlane) (lines : List LogLine) : ControlPlane := { p with log := p.log ++ lines }

/-- Takes a new state of the server and asks for what its changes call for. -/
def hear (p : ControlPlane) (server : Api.Server) : ControlPlane :=
  let keys := (p.server.changes server).flatMap fun event => event.parents server
  { p with server := server, schedule := p.schedule.requestAll keys p.now }

def handle (r : Api.Request) (p : ControlPlane) : Api.Response × ControlPlane :=
  let (response, server) := p.server.handle r
  match r.method with
  | .get => (response, { p with server := server })
  | _ => (response, { p.hear server with writes := p.writes ++ [r] })

def visitLine (key : ParentKey) (v : Visit) : LogLine :=
  match v.failure with
  | none => ⟨.debug, "Reconciled " ++ key.watchName⟩
  | some _ => ⟨.warn, "Reconcile failed: reconciler for object " ++ key.watchName ++ " failed"⟩

def absentLine (key : ParentKey) : LogLine :=
  ⟨.warn, "Reconcile failed: tried to reconcile object " ++ key.watchName ++
    " that was not found in local store"⟩

def plan (p : ControlPlane) (key : ParentKey) : Revisit → ControlPlane
  | .onChange => p
  | .after seconds => { p with schedule := p.schedule.request key (p.now + 1000 * seconds) }

/-- Reconciles a parent. One that is gone is only logged. -/
def attend (p : ControlPlane) (key : ParentKey) : ControlPlane :=
  if p.server.hasParent key then
    let out := (visit key p.settings.options p.settings.defaults).run handle p
    (out.state.note (out.log ++ [visitLine key out.value])).plan key out.value.next
  else p.note [absentLine key]

/-- Attends to what is due up to a time. No more parents than the limit are attended to. -/
def settle (limit time : Nat) (p : ControlPlane) : ControlPlane :=
  match limit with
  | 0 => { p with now := time }
  | limit + 1 =>
    match p.schedule.due? time with
    | none => { p with now := time }
    | some (key, planned) =>
      let started := { p with now := max p.now planned, schedule := p.schedule.drop key }
      settle limit time (started.attend key)

/-- More visits than any stretch of time has that comes to rest. -/
def visitLimit : Nat := 100000

def elapse (p : ControlPlane) (milliseconds : Nat) : ControlPlane :=
  p.settle visitLimit (p.now + milliseconds)

/-- Starts on a server. All that it has is heard of as if it had just been stored. -/
def start (settings : Settings) (server : Api.Server) : ControlPlane :=
  let idle : ControlPlane := {
    settings := settings
    server := default
    now := 0
    schedule := default
    running := true
    writes := []
    log := [⟨.info, "Starting controller"⟩] }
  idle.hear server

/-- Stops. Nothing that is still to come is attended to. -/
def stop (p : ControlPlane) : ControlPlane :=
  { p.note [⟨.info, "Controller stopped"⟩] with schedule := default, running := false }

/-- The same with nothing seen since the last look. -/
def unobserved (p : ControlPlane) : ControlPlane := { p with writes := [], log := [] }

end ControlPlane

end JupyterWorkloads
