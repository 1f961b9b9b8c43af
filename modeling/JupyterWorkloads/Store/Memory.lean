import JupyterWorkloads.Store.Interface

/-! A store in memory that treats objects the way an API server does: it counts versions, allocates
uids and addresses, keeps what may not change, and refuses a replacement that was made from an older
version. Reads can be made to miss a key and writes of a kind to fail. -/
namespace JupyterWorkloads.Store

/-- A successful write, by kind and name. -/
inductive Write where
  | create (kind : ChildKind) (name : String)
  | replace (kind : ChildKind) (name : String)
  | delete (kind : ChildKind) (name : String)
  deriving DecidableEq, Inhabited

def Write.display : Write → String
  | create kind name => "create " ++ kind.name ++ " " ++ name
  | replace kind name => "replace " ++ kind.name ++ " " ++ name
  | delete kind name => "delete " ++ kind.name ++ " " ++ name

structure Memory where
  objects : Table ChildKey Child
  /-- The writes since the start, the last one at the end. -/
  writes : List Write
  /-- The last version given out. -/
  version : Nat
  /-- Keys that reads miss. -/
  hidden : List ChildKey
  /-- Kinds that cannot be created or replaced. -/
  failing : List ChildKind
  deriving DecidableEq, Inhabited

namespace Memory

def refusal (child : Child) (code : Nat) (reason : String) : StoreError :=
  .api child.ref (.refused {
    status := "Failure"
    message := reason ++ ": " ++ child.ref.display
    reason := reason
    code := code })

def clusterAddress (version : Nat) : String := "10.96.0." ++ Text.ofNat version

/-- Gives a service an address unless it has one. -/
def allocate (version : Nat) (spec : ServiceSpec) : ServiceSpec :=
  match spec.clusterIP with
  | some _ => spec
  | none =>
    { spec with
      clusterIP := some (clusterAddress version)
      clusterIPs := some [clusterAddress version] }

/-- The deployment with one pod running at its next generation. -/
def rollOut (o : Deployment) : Deployment :=
  let generation := o.metadata.generation.getD 0 + 1
  { o with
    metadata := { o.metadata with generation := some generation }
    status := some {
      availableReplicas := some 1
      collisionCount := none
      observedGeneration := some generation
      readyReplicas := some 1
      replicas := some 1
      unavailableReplicas := none
      updatedReplicas := some 1 } }

/-- What the server fills in by the kind of the object. -/
def fillIn (version : Nat) : Child → Child
  | .service o => .service { o with spec := some (allocate version (o.spec.getD default)) }
  | .deployment o => .deployment (rollOut o)
  | other => other

def admitted (version : Nat) (child : Child) : Child :=
  fillIn version (child.mapMetadata fun m =>
    { m with
      resourceVersion := some (Text.ofNat version)
      uid := m.uid.or (some ("uid-" ++ Text.ofNat version)) })

/-- Stores an object under a key as the next version. -/
def put (m : Memory) (key : ChildKey) (child : Child) : Child × Memory :=
  let stored := admitted (m.version + 1) child
  (stored, { m with objects := m.objects.insert key stored, version := m.version + 1 })

def logged (m : Memory) (write : Write) : Memory := { m with writes := m.writes ++ [write] }

/-- Seeds an object without a write. -/
def insert (m : Memory) (child : Child) : Child × Memory := m.put child.key child

def object? (m : Memory) (key : ChildKey) : Option Child := m.objects.get? key

/-- Edits the object of a key in place, the way another client would. -/
def mutate (m : Memory) (key : ChildKey) (f : Child → Child) : Memory :=
  match m.object? key with
  | none => m
  | some child => (m.put key (f child)).2

def hide (m : Memory) (key : ChildKey) : Memory := { m with hidden := key :: m.hidden }

def failWritesFor (m : Memory) (kind : ChildKind) : Memory :=
  { m with failing := kind :: m.failing }

def get (m : Memory) (key : ChildKey) : Option Child :=
  if key ∈ m.hidden then none else m.object? key

def create (m : Memory) (child : Child) : Except StoreError Child × Memory :=
  if child.kind ∈ m.failing then (.error (refusal child 500 "InternalError"), m)
  else if m.objects.contains child.key then (.error (.alreadyExists child.ref), m)
  else
    let (stored, m) := m.put child.key
      (child.mapMetadata fun identity => { identity with resourceVersion := none })
    (.ok stored, m.logged (.create child.kind child.name))

/-- Whether a replacement changes what may not change: the address of a service, the role of a
binding. -/
def changesFixed : Child → Child → Bool
  | .service live, .service next =>
    live.spec.bind ServiceSpec.clusterIP != next.spec.bind ServiceSpec.clusterIP
  | .roleBinding live, .roleBinding next => live.roleRef != next.roleRef
  | _, _ => false

/-- A replacement with what it takes over from the live object. -/
def carryOver (live next : Child) : Child :=
  next.mapMetadata fun m =>
    { m with
      uid := live.metadata.uid
      generation := match live, next with
        | .deployment live, .deployment _ => live.metadata.generation
        | _, _ => m.generation }

def replace (m : Memory) (child : Child) : Except StoreError Child × Memory :=
  if child.kind ∈ m.failing then (.error (refusal child 500 "InternalError"), m)
  else match m.object? child.key with
    | none => (.error (refusal child 404 "NotFound"), m)
    | some live =>
      if live.metadata.resourceVersion ≠ child.metadata.resourceVersion then
        (.error (.conflict child.ref), m)
      else if changesFixed live child then (.error (refusal child 422 "Invalid"), m)
      else
        let (stored, m) := m.put child.key (carryOver live child)
        (.ok stored, m.logged (.replace child.kind child.name))

def delete (m : Memory) (key : ChildKey) : Memory :=
  if m.objects.contains key then
    { m with objects := m.objects.erase key }.logged (.delete key.kind key.name)
  else m

def handle : (call : Call) → Memory → call.Answer × Memory
  | .get key, m => (.ok (m.get key), m)
  | .create child, m => m.create child
  | .replace child, m => m.replace child
  | .delete key, m => (.ok (), m.delete key)

end Memory

end JupyterWorkloads.Store
