import JupyterWorkloads.Api.Client
import JupyterWorkloads.Json.MergePatch

/-! An API server that keeps JSON objects by their paths. It counts what it stores, refuses
replacements that were made from an older version, and can be told to fail requests. -/
namespace JupyterWorkloads.Api

/-- A request that fails, with its response. -/
structure FailRule where
  method : Method
  path : String
  response : Response
  /-- Applies to one request only. -/
  once : Bool
  deriving DecidableEq, Inhabited

def FailRule.applies (rule : FailRule) (r : Request) : Bool :=
  rule.method == r.method && rule.path == r.path

structure Server where
  objects : Table String Json
  counter : Nat
  rules : List FailRule
  deriving DecidableEq, Inhabited

namespace Server

def refuse (code : Nat) (reason message : String) : Response :=
  ⟨code, .json (encode ({ status := "Failure", message, reason, code } : ErrorResponse))⟩

def found (v : Json) : Response := ⟨200, .json v⟩

def notFound (path : String) : Response := refuse 404 "NotFound" (path ++ " not found")

/-- An object as it is stored under a number: with the number as its version and, unless it has one,
a uid. -/
def admitted (number : Nat) (v : Json) : Json :=
  let metadata : Json := match v.get? "metadata" with
    | none | some .null => .obj []
    | some m => m
  let versioned := metadata.set "resourceVersion" (.str (Text.ofNat number))
  let known := match versioned.get? "uid" with
    | none | some .null => versioned.set "uid" (.str ("uid-" ++ Text.ofNat number))
    | some _ => versioned
  match v with
  | .null => .obj [("metadata", known)]
  | other => other.set "metadata" known

def put (s : Server) (path : String) (v : Json) : Json × Server :=
  let stored := admitted (s.counter + 1) v
  (stored, { s with objects := s.objects.insert path stored, counter := s.counter + 1 })

def object? (s : Server) (path : String) : Option Json := s.objects.get? path

/-- Applies a merge patch to an object, if there is one, and stores the result. -/
def merge (s : Server) (path : String) (patch : Json) : Option Json × Server :=
  match s.object? path with
  | none => (none, s)
  | some v =>
    let (stored, s) := s.put path (v.mergePatch patch)
    (some stored, s)

def remove (s : Server) (path : String) : Option Json × Server :=
  (s.object? path, { s with objects := s.objects.erase path })

def fail (s : Server) (rule : FailRule) : Server := { s with rules := s.rules ++ [rule] }

def heal (s : Server) : Server := { s with rules := [] }

def version? (v : Json) : Option Json := (v.get? "metadata").bind (Json.get? "resourceVersion")

def nameOf (v : Json) : String :=
  (((v.get? "metadata").bind (Json.get? "name")).bind Json.str?).getD ""

def withoutStatus (path : String) : String :=
  let chars := path.toList
  let status := "/status".toList
  if status.isSuffixOf chars then String.ofList (chars.take (chars.length - status.length))
  else path

/-- Answers a request that no rule fails. -/
def serve (s : Server) (r : Request) : Response × Server :=
  let body := r.body.getD .null
  match r.method with
  | .get =>
    match s.object? r.path with
    | some v => (found v, s)
    | none => (notFound r.path, s)
  | .post =>
    let path := r.path ++ "/" ++ nameOf body
    if s.objects.contains path then
      (refuse 409 "AlreadyExists" (path ++ " already exists"), s)
    else
      let (stored, s) := s.put path body
      (found stored, s)
  | .put =>
    match s.object? r.path with
    | none => (notFound r.path, s)
    | some v =>
      if version? v ≠ version? body then
        (refuse 409 "Conflict" (r.path ++ " was modified"), s)
      else
        let (stored, s) := s.put r.path body
        (found stored, s)
  | .patch =>
    match s.merge (withoutStatus r.path) body with
    | (some v, s) => (found v, s)
    | (none, s) => (notFound r.path, s)
  | .delete =>
    match s.remove r.path with
    | (some v, s) => (found v, s)
    | (none, s) => (notFound r.path, s)

/-- Answers a request: the first rule that applies comes before the objects. -/
def handle (r : Request) (s : Server) : Response × Server :=
  match s.rules.find? fun rule => rule.applies r with
  | some rule =>
    (rule.response, if rule.once then { s with rules := s.rules.erase rule } else s)
  | none => s.serve r

end Server

end JupyterWorkloads.Api
