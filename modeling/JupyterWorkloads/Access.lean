import JupyterWorkloads.Metadata

/-! Identities and their permissions: service accounts and the bindings that give them a role. -/
namespace JupyterWorkloads

structure ServiceAccount where
  automountServiceAccountToken : Option Bool
  metadata : ObjectMeta
  deriving DecidableEq, Inhabited

instance : Codec ServiceAccount where
  encode x := .record [
    .required "apiVersion" "v1",
    .optional "automountServiceAccountToken" x.automountServiceAccountToken,
    .required "kind" "ServiceAccount",
    .required "metadata" x.metadata]
  decode v := do
    let fields ← v.fields?
    Record.constant? fields "apiVersion" "v1"
    Record.constant? fields "kind" "ServiceAccount"
    return {
      automountServiceAccountToken := ← Record.optional? fields "automountServiceAccountToken"
      metadata := ← Record.required? fields "metadata" }

/-- The role a binding gives. It cannot change once the binding exists. -/
structure RoleRef where
  apiGroup : String
  kind : String
  name : String
  deriving DecidableEq, Inhabited

instance : Codec RoleRef where
  encode x := .record [
    .required "apiGroup" x.apiGroup,
    .required "kind" x.kind,
    .required "name" x.name]
  decode v := do
    let fields ← v.fields?
    return {
      apiGroup := ← Record.required? fields "apiGroup"
      kind := ← Record.required? fields "kind"
      name := ← Record.required? fields "name" }

structure Subject where
  apiGroup : Option String
  kind : String
  name : String
  ns : Option String
  deriving DecidableEq, Inhabited

instance : Codec Subject where
  encode x := .record [
    .optional "apiGroup" x.apiGroup,
    .required "kind" x.kind,
    .required "name" x.name,
    .optional "namespace" x.ns]
  decode v := do
    let fields ← v.fields?
    return {
      apiGroup := ← Record.optional? fields "apiGroup"
      kind := ← Record.required? fields "kind"
      name := ← Record.required? fields "name"
      ns := ← Record.optional? fields "namespace" }

structure RoleBinding where
  metadata : ObjectMeta
  roleRef : RoleRef
  subjects : Option (List Subject)
  deriving DecidableEq, Inhabited

instance : Codec RoleBinding where
  encode x := .record [
    .required "apiVersion" "rbac.authorization.k8s.io/v1",
    .required "kind" "RoleBinding",
    .required "metadata" x.metadata,
    .required "roleRef" x.roleRef,
    .optional "subjects" x.subjects]
  decode v := do
    let fields ← v.fields?
    Record.constant? fields "apiVersion" "rbac.authorization.k8s.io/v1"
    Record.constant? fields "kind" "RoleBinding"
    return {
      metadata := ← Record.required? fields "metadata"
      roleRef := ← Record.required? fields "roleRef"
      subjects := ← Record.optional? fields "subjects" }

end JupyterWorkloads
