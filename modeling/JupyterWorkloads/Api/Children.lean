import JupyterWorkloads.Api.Client
import JupyterWorkloads.Pass

/-! The store of children and the lookups of references on an API server. -/
namespace JupyterWorkloads

namespace StoreError

/-- A create that the server refuses as a conflict met an object of the name. -/
def ofCreate (object : ObjectRef) (f : ApiFailure) : StoreError :=
  if f.hasCode 409 then alreadyExists object else api object f

/-- A replacement that the server refuses as a conflict was made from an older version. -/
def ofReplace (object : ObjectRef) (f : ApiFailure) : StoreError :=
  if f.hasCode 409 then conflict object else api object f

end StoreError

/-- Deleting what is gone already succeeds. -/
def Api.deleted : Except ApiFailure Unit → Except ApiFailure Unit
  | .ok () => .ok ()
  | .error f => if f.hasCode 404 then .ok () else .error f

/-- Makes a call of the store with a request to the server. -/
def Store.Call.overApi : (call : Store.Call) → Api.Action call.Answer
  | .get key => do
    let found ← Api.get? key.kind.collection key.ns key.name (Child.ofJson? key.kind)
    return found.mapError (StoreError.api key.ref)
  | .create child => do
    let stored ← Api.create child.kind.collection child.ns child.toJson (Child.ofJson? child.kind)
    return stored.mapError (StoreError.ofCreate child.ref)
  | .replace child => do
    let stored ← Api.replace child.kind.collection child.ns child.metadata.anyName child.toJson
      (Child.ofJson? child.kind)
    return stored.mapError (StoreError.ofReplace child.ref)
  | .delete key => do
    let gone ← Api.delete key.kind.collection key.ns key.name (Child.ofJson? key.kind)
    return (Api.deleted gone).mapError (StoreError.api key.ref)

def Resolved.ofJson? (kind : ReferenceKind) (v : Json) : Option Resolved :=
  match kind with
  | .kernelSpec => (decode v).map kernelSpec
  | .kernelTemplate => (decode v).map kernelTemplate

def Lookup.overApi (lookup : Lookup) : Api.Action (Except ResolveError Resolved) := do
  match ← Api.get? lookup.kind.collection lookup.ns lookup.name (Resolved.ofJson? lookup.kind) with
  | .ok (some found) => return .ok found
  | .ok none => return .error (.notFound lookup)
  | .error f => return .error (.api lookup f)

def PassCalls.overApi : (request : PassCalls.Request) → Api.Action (PassCalls.Answer request)
  | .inl lookup => Lookup.overApi lookup
  | .inr call => Store.Call.overApi call

end JupyterWorkloads
