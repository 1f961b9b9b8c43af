import JupyterWorkloads.Api.Collection
import JupyterWorkloads.Api.Message
import JupyterWorkloads.Api.StatusText
import JupyterWorkloads.Json.Codec

/-! Typed requests to an API server. A response with a failure code is a refusal, whatever it says;
any other response must write an object of the expected kind. -/
namespace JupyterWorkloads

/-- A number that is not negative and has no more than the given bits. -/
def naturalOfJson? (bits : Nat) : Json → Option Nat
  | .int n => if 0 ≤ n ∧ n.toNat < Nat.pow 2 bits then some n.toNat else none
  | _ => none

instance : Codec ErrorResponse where
  encode r := .obj [
    ("code", .int r.code),
    ("message", .str r.message),
    ("reason", .str r.reason),
    ("status", .str r.status)]
  decode v := do
    let fields ← Record.declared? 4 ["status", "message", "reason", "code"] v
    return {
      status := ← Record.mandatory? fields "status"
      message := ← Record.defaulted? fields "message"
      reason := ← Record.defaulted? fields "reason"
      code := ← (Record.read? (naturalOfJson? 16) fields "code").join }

/-- What a server says of a deletion, with nothing of it kept. -/
def deletionOfJson? (v : Json) : Option Unit := do
  let fields ← Record.declared? 0 ["status", "message", "reason", "details", "code"] v
  let _ ← Record.read? (Record.nullable? outcome?) fields "status"
  let _ : String ← Record.defaulted? fields "message"
  let _ : String ← Record.defaulted? fields "reason"
  let _ ← Record.read? (Record.nullable? details?) fields "details"
  let _ ← Record.read? (naturalOfJson? 16) fields "code"
where
  outcome? : Json → Option Unit
    | .str s | .obj [(s, .null)] => if s = "Success" ∨ s = "Failure" then some () else none
    | _ => none
  cause? (v : Json) : Option Unit := do
    let names := ["reason", "message", "field"]
    let fields ← Record.declared? 0 names v
    names.forM fun name => do
      let _ : String ← Record.defaulted? fields name
  details? (v : Json) : Option Unit := do
    let texts := ["name", "group", "kind", "uid"]
    let fields ← Record.declared? 0 (texts ++ ["causes", "retryAfterSeconds"]) v
    texts.forM fun name => do
      let _ : String ← Record.defaulted? fields name
    let _ ← Record.read? (fun v => do (← v.items?).mapM cause?) fields "causes"
    let _ ← Record.read? (naturalOfJson? 32) fields "retryAfterSeconds"

namespace Api

variable {α : Type}

namespace Response

/-- What a failed request is told. A body that does not say is quoted. -/
def refusal (r : Response) : ErrorResponse :=
  match r.body.read? decode with
  | some refusal => refusal
  | none => {
      status := statusText r.code
      message := Text.quoted r.body.toText
      reason := "Failed to parse error data"
      code := r.code }

def read (reader : Body → Option α) (r : Response) : Except ApiFailure α :=
  if r.isFailure then .error (.refused r.refusal)
  else match reader r.body with
    | some a => .ok a
    | none => .error .unreadable

end Response

/-- Sends a request and reads the response. A path that cannot be built is a failure before anything is
sent. -/
def request (method : Method) (path : Except ApiFailure String) (body : Option Json)
    (reader : Body → Option α) : Action (Except ApiFailure α) :=
  match path with
  | .error e => pure (.error e)
  | .ok path => (Response.read reader) <$> send { method, path, body }

def get (c : Collection) (ns name : String) (reader : Json → Option α) :
    Action (Except ApiFailure α) :=
  request .get (c.object ns name "") none (Body.read? reader)

/-- An object that is not there is no failure. -/
def orAbsent : Except ApiFailure α → Except ApiFailure (Option α)
  | .ok a => .ok (some a)
  | .error e => if e.isNotFound then .ok none else .error e

def get? (c : Collection) (ns name : String) (reader : Json → Option α) :
    Action (Except ApiFailure (Option α)) :=
  orAbsent <$> get c ns name reader

def create (c : Collection) (ns : String) (body : Json) (reader : Json → Option α) :
    Action (Except ApiFailure α) :=
  request .post (pathOf (c.path ns)) (some body) (Body.read? reader)

def replace (c : Collection) (ns name : String) (body : Json) (reader : Json → Option α) :
    Action (Except ApiFailure α) :=
  request .put (c.object ns name "") (some body) (Body.read? reader)

/-- Reads the response to a deletion, which must be a whole value: it says how the deletion went, or it
is the object. -/
def deletion? (reader : Json → Option α) (body : Body) : Option Unit := do
  let v ← body.value?
  if v.get? "kind" = some (.str "Status") then body.read? deletionOfJson?
  else body.read? fun v => (reader v).map fun _ => ()

/-- Deletes an object; what depends on it is collected later. -/
def delete (c : Collection) (ns name : String) (reader : Json → Option α) :
    Action (Except ApiFailure Unit) :=
  request .delete (c.object ns name "")
    (some (.obj [("propagationPolicy", .str "Background")])) (deletion? reader)

def patchStatus (c : Collection) (ns name : String) (patch : Json) (reader : Json → Option α) :
    Action (Except ApiFailure α) :=
  request .patch (c.object ns name "/status") (some patch) (Body.read? reader)

end Api

end JupyterWorkloads
