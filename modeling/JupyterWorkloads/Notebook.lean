import JupyterWorkloads.Group
import JupyterWorkloads.WorkloadStatus
import JupyterWorkloads.Pod.Basic

/-! Notebooks: servers for one user, which may run their kernels through a gateway. -/
namespace JupyterWorkloads

/-- Whether a notebook asks for a login. -/
inductive AuthMode where
  | enable
  | disable
  deriving DecidableEq, Inhabited

namespace AuthMode

def name : AuthMode → String
  | .enable => "enable"
  | .disable => "disable"

def ofName? : String → Option AuthMode
  | "enable" => some .enable
  | "disable" => some .disable
  | _ => none

end AuthMode

/-- Written as its name; an object whose one member has that name and the value null reads the same. -/
instance : Codec AuthMode where
  encode m := .str m.name
  decode
    | .str s => AuthMode.ofName? s
    | .obj [(name, .null)] => AuthMode.ofName? name
    | _ => none

structure Notebook.Auth where
  mode : Option AuthMode
  token : Option String
  password : Option String
  deriving DecidableEq, Inhabited

instance Notebook.Auth.instCodec : Codec Notebook.Auth where
  encode x := .record [
    .optional "mode" x.mode,
    .optional "password" x.password,
    .optional "token" x.token]
  decode v := do
    let fields ← Record.declared? 0 ["mode", "token", "password"] v
    return {
      mode := ← Record.optional? fields "mode"
      token := ← Record.optional? fields "token"
      password := ← Record.optional? fields "password" }

structure Notebook.Spec where
  gateway : Option ObjectReference
  auth : Option Notebook.Auth
  template : Option PodTemplate
  deriving DecidableEq, Inhabited

instance Notebook.Spec.instCodec : Codec Notebook.Spec where
  encode x := .record [
    .optional "auth" x.auth,
    .optional "gateway" x.gateway,
    .optional "template" x.template]
  decode v := do
    let fields ← Record.declared? 0 ["gateway", "auth", "template"] v
    return {
      gateway := ← Record.optional? fields "gateway"
      auth := ← Record.optional? fields "auth"
      template := ← Record.optional? fields "template" }

structure Notebook where
  metadata : ObjectMeta
  spec : Notebook.Spec
  status : Option WorkloadStatus
  deriving DecidableEq, Inhabited

instance : Codec Notebook where
  encode x := .record [
    .required "apiVersion" apiVersion,
    .required "kind" "JupyterNotebook",
    .required "metadata" x.metadata,
    .required "spec" x.spec,
    .optional "status" x.status]
  decode v := do
    let fields ← Record.declared? 3 ["metadata", "spec", "status"] v
    return {
      metadata := ← Record.mandatory? fields "metadata"
      spec := ← Record.mandatory? fields "spec"
      status := ← Record.optional? fields "status" }

end JupyterWorkloads
