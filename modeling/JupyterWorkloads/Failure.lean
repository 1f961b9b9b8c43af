import JupyterWorkloads.ObjectRef
import JupyterWorkloads.Text.Decimal
import JupyterWorkloads.Text.Quoted

/-! What can go wrong, as causes. The wording of each cause is in one place. -/
namespace JupyterWorkloads

/-- Why a spec can never be reconciled as it is written. -/
inductive InvalidSpec where
  | noContainers
  | emptyKernelId
  | noKernelId
  | noTemplateSource
  | emptyTemplate (name : String)
  | emptyNotebook
  | unnamedGateway
  | stated (text : String)
  deriving DecidableEq, Inhabited

def InvalidSpec.message : InvalidSpec → String
  | noContainers => "pod template has no containers"
  | emptyKernelId => "kernel has an empty kernelId"
  | noKernelId => "kernel has no kernelId and its first container sets no KERNEL_ID"
  | noTemplateSource => "kernel has neither a template nor a templateRef"
  | emptyTemplate name => s!"kernel template {name} has no template"
  | emptyNotebook => "notebook has neither a gateway nor a template"
  | unnamedGateway => "notebook gateway reference has no name"
  | stated text => text

structure ErrorResponse where
  status : String
  message : String
  reason : String
  code : Nat
  deriving DecidableEq, Inhabited

namespace ErrorResponse

def display (r : ErrorResponse) : String := r.message ++ ": " ++ r.reason

/-- All fields, for logs. -/
def details (r : ErrorResponse) : String :=
  "ErrorResponse \x7b status: " ++ Text.quoted r.status ++ ", message: " ++ Text.quoted r.message ++
    ", reason: " ++ Text.quoted r.reason ++ ", code: " ++ Text.ofNat r.code ++ " \x7d"

end ErrorResponse

/-- Why a request to the API server gave no object: it was refused, it could not be built because the
object has no name or one that cannot stand in a path, or the answer could not be read. -/
inductive ApiFailure where
  | refused (response : ErrorResponse)
  | unnamed
  | unaddressable
  | unreadable
  deriving DecidableEq, Inhabited

namespace ApiFailure

/-- The messages of a failure and of what caused it, outermost first. -/
def chain : ApiFailure → List String
  | refused r => ["ApiError: " ++ r.display ++ " (" ++ r.details ++ ")", r.display]
  | unnamed =>
    ["Failed to build request: failed to validate request: A non-empty name is required",
      "failed to validate request: A non-empty name is required"]
  | unaddressable =>
    ["Failed to build request: failed to build request: invalid uri character",
      "failed to build request: invalid uri character",
      "invalid uri character"]
  | unreadable => ["Error deserializing response"]

def message (f : ApiFailure) : String := f.chain.headD ""

def hasCode (code : Nat) : ApiFailure → Bool
  | refused r => r.code == code
  | _ => false

def isNotFound : ApiFailure → Bool
  | refused r => r.reason == "NotFound"
  | _ => false

end ApiFailure

inductive StoreError where
  | alreadyExists (object : ObjectRef)
  | conflict (object : ObjectRef)
  | api (object : ObjectRef) (source : ApiFailure)
  deriving DecidableEq, Inhabited

namespace StoreError

def kind : StoreError → String
  | alreadyExists _ => "AlreadyExists"
  | conflict _ => "Conflict"
  | api _ _ => "Api"

def message : StoreError → String
  | alreadyExists o => o.display ++ " already exists"
  | conflict o => o.display ++ " was modified since it was read"
  | api o f => "Request for " ++ o.display ++ " failed: " ++ f.message

end StoreError

inductive ReferenceKind where
  | kernelSpec
  | kernelTemplate
  deriving DecidableEq, Inhabited

def ReferenceKind.name : ReferenceKind → String
  | kernelSpec => "JupyterKernelSpec"
  | kernelTemplate => "JupyterKernelTemplate"

structure Lookup where
  kind : ReferenceKind
  ns : String
  name : String
  deriving DecidableEq, Inhabited

def Lookup.display (l : Lookup) : String := l.kind.name ++ " " ++ l.ns ++ "/" ++ l.name

/-- Why a lookup gave no object of the expected kind. -/
inductive ResolveError where
  | notFound (lookup : Lookup)
  | api (lookup : Lookup) (source : ApiFailure)
  | unexpectedKind (lookup : Lookup)
  deriving DecidableEq, Inhabited

namespace ResolveError

def kind : ResolveError → String
  | notFound _ => "NotFound"
  | api _ _ => "Api"
  | unexpectedKind _ => "UnexpectedKind"

def message : ResolveError → String
  | notFound l => l.display ++ " not found"
  | api l f => "Unable to read " ++ l.display ++ ": " ++ f.message
  | unexpectedKind l => l.display ++ " resolved to a different kind"

end ResolveError

inductive ReconcileError where
  | validation (reason : InvalidSpec)
  | reference (error : ResolveError)
  | conflict (object : ObjectRef)
  | platform (object : ObjectRef) (source : ApiFailure)
  | missingUid (parent : ObjectRef)
  | serialization (object : ObjectRef) (text : String)
  deriving DecidableEq, Inhabited

namespace ReconcileError

def kind : ReconcileError → String
  | validation _ => "Validation"
  | reference e => "ReferenceResolution." ++ e.kind
  | conflict _ => "Conflict"
  | platform _ _ => "Platform"
  | missingUid _ => "MissingUid"
  | serialization _ _ => "Serialization"

def message : ReconcileError → String
  | validation reason => "Invalid spec: " ++ reason.message
  | reference e => e.message
  | conflict o => o.display ++ " was modified during reconciliation"
  | platform o f => "Request for " ++ o.display ++ " failed: " ++ f.message
  | missingUid o => o.display ++ " has no UID and cannot own objects"
  | serialization o text => "Unable to serialize " ++ o.display ++ ": " ++ text

/-- Nothing but a change of the parent can help. -/
def isPermanent : ReconcileError → Bool
  | validation _ => true
  | _ => false

/-- A lost race of either sort is a conflict. -/
def ofStore : StoreError → ReconcileError
  | .alreadyExists o => conflict o
  | .conflict o => conflict o
  | .api o f => platform o f

end ReconcileError

end JupyterWorkloads
