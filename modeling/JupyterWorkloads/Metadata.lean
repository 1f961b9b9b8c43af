import JupyterWorkloads.Json.Codec

/-! What every object on the cluster carries: its identity, its labels and its owners. Here and in the records
of the single kinds, the fields of Kubernetes 1.32 are kept that objects in use set; a reader drops the others
as unknown ones. No function looks at one of those by its name, and what works on whole objects treats all
fields alike. -/
namespace JupyterWorkloads

/-- A link from an object to one that owns it. At most one owner should be the controller. -/
structure OwnerReference where
  apiVersion : String
  blockOwnerDeletion : Option Bool
  controller : Option Bool
  kind : String
  name : String
  uid : String
  deriving DecidableEq, Inhabited

instance : Codec OwnerReference where
  encode x := .record [
    .required "apiVersion" x.apiVersion,
    .optional "blockOwnerDeletion" x.blockOwnerDeletion,
    .optional "controller" x.controller,
    .required "kind" x.kind,
    .required "name" x.name,
    .required "uid" x.uid]
  decode v := do
    let fields ← v.fields?
    return {
      apiVersion := ← Record.required? fields "apiVersion"
      blockOwnerDeletion := ← Record.optional? fields "blockOwnerDeletion"
      controller := ← Record.optional? fields "controller"
      kind := ← Record.required? fields "kind"
      name := ← Record.required? fields "name"
      uid := ← Record.required? fields "uid" }

/-- The identity of an object, with what others have attached to it. -/
structure ObjectMeta where
  annotations : Option StringTable
  finalizers : Option (List String)
  generateName : Option String
  generation : Option Int64
  labels : Option StringTable
  name : Option String
  ns : Option String
  ownerReferences : Option (List OwnerReference)
  resourceVersion : Option String
  uid : Option String
  deriving DecidableEq, Inhabited

instance : Codec ObjectMeta where
  encode x := .record [
    .optional "annotations" x.annotations,
    .optional "finalizers" x.finalizers,
    .optional "generateName" x.generateName,
    .optional "generation" x.generation,
    .optional "labels" x.labels,
    .optional "name" x.name,
    .optional "namespace" x.ns,
    .optional "ownerReferences" x.ownerReferences,
    .optional "resourceVersion" x.resourceVersion,
    .optional "uid" x.uid]
  decode v := do
    let fields ← v.fields?
    return {
      annotations := ← Record.optional? fields "annotations"
      finalizers := ← Record.optional? fields "finalizers"
      generateName := ← Record.optional? fields "generateName"
      generation := ← Record.optional? fields "generation"
      labels := ← Record.optional? fields "labels"
      name := ← Record.optional? fields "name"
      ns := ← Record.optional? fields "namespace"
      ownerReferences := ← Record.optional? fields "ownerReferences"
      resourceVersion := ← Record.optional? fields "resourceVersion"
      uid := ← Record.optional? fields "uid" }

/-- The name, or the stem a name would be made from, or nothing. -/
def ObjectMeta.anyName (m : ObjectMeta) : String := (m.name.or m.generateName).getD ""

/-- A pointer to another object. Every part is optional. -/
structure ObjectReference where
  apiVersion : Option String
  fieldPath : Option String
  kind : Option String
  name : Option String
  ns : Option String
  resourceVersion : Option String
  uid : Option String
  deriving DecidableEq, Inhabited

instance : Codec ObjectReference where
  encode x := .record [
    .optional "apiVersion" x.apiVersion,
    .optional "fieldPath" x.fieldPath,
    .optional "kind" x.kind,
    .optional "name" x.name,
    .optional "namespace" x.ns,
    .optional "resourceVersion" x.resourceVersion,
    .optional "uid" x.uid]
  decode v := do
    let fields ← v.fields?
    return {
      apiVersion := ← Record.optional? fields "apiVersion"
      fieldPath := ← Record.optional? fields "fieldPath"
      kind := ← Record.optional? fields "kind"
      name := ← Record.optional? fields "name"
      ns := ← Record.optional? fields "namespace"
      resourceVersion := ← Record.optional? fields "resourceVersion"
      uid := ← Record.optional? fields "uid" }

end JupyterWorkloads
