import JupyterWorkloads.Pod.Basic

/-! Deployments: how many pods of one template should run, and how many do. -/
namespace JupyterWorkloads

/-- A count or a share such as `25%`. -/
inductive CountOrText where
  | count (n : Int32)
  | text (s : String)
  deriving DecidableEq, Inhabited

instance : Codec CountOrText where
  encode
    | .count n => encode n
    | .text s => encode s
  decode
    | .str s => some (.text s)
    | v => (decode v).map .count

structure LabelSelector where
  matchLabels : Option StringTable
  deriving DecidableEq, Inhabited

instance : Codec LabelSelector where
  encode x := .record [
    .optional "matchLabels" x.matchLabels]
  decode v := do
    let fields ← v.fields?
    return {
      matchLabels := ← Record.optional? fields "matchLabels" }

structure RollingUpdate where
  maxSurge : Option CountOrText
  maxUnavailable : Option CountOrText
  deriving DecidableEq, Inhabited

instance : Codec RollingUpdate where
  encode x := .record [
    .optional "maxSurge" x.maxSurge,
    .optional "maxUnavailable" x.maxUnavailable]
  decode v := do
    let fields ← v.fields?
    return {
      maxSurge := ← Record.optional? fields "maxSurge"
      maxUnavailable := ← Record.optional? fields "maxUnavailable" }

structure DeploymentStrategy where
  rollingUpdate : Option RollingUpdate
  type : Option String
  deriving DecidableEq, Inhabited

instance : Codec DeploymentStrategy where
  encode x := .record [
    .optional "rollingUpdate" x.rollingUpdate,
    .optional "type" x.type]
  decode v := do
    let fields ← v.fields?
    return {
      rollingUpdate := ← Record.optional? fields "rollingUpdate"
      type := ← Record.optional? fields "type" }

structure DeploymentSpec where
  minReadySeconds : Option Int32
  paused : Option Bool
  progressDeadlineSeconds : Option Int32
  replicas : Option Int32
  revisionHistoryLimit : Option Int32
  selector : LabelSelector
  strategy : Option DeploymentStrategy
  template : PodTemplate
  deriving DecidableEq, Inhabited

instance : Codec DeploymentSpec where
  encode x := .record [
    .optional "minReadySeconds" x.minReadySeconds,
    .optional "paused" x.paused,
    .optional "progressDeadlineSeconds" x.progressDeadlineSeconds,
    .optional "replicas" x.replicas,
    .optional "revisionHistoryLimit" x.revisionHistoryLimit,
    .required "selector" x.selector,
    .optional "strategy" x.strategy,
    .required "template" x.template]
  decode v := do
    let fields ← v.fields?
    return {
      minReadySeconds := ← Record.optional? fields "minReadySeconds"
      paused := ← Record.optional? fields "paused"
      progressDeadlineSeconds := ← Record.optional? fields "progressDeadlineSeconds"
      replicas := ← Record.optional? fields "replicas"
      revisionHistoryLimit := ← Record.optional? fields "revisionHistoryLimit"
      selector := ← Record.required? fields "selector"
      strategy := ← Record.optional? fields "strategy"
      template := ← Record.required? fields "template" }

structure DeploymentStatus where
  availableReplicas : Option Int32
  collisionCount : Option Int32
  observedGeneration : Option Int64
  readyReplicas : Option Int32
  replicas : Option Int32
  unavailableReplicas : Option Int32
  updatedReplicas : Option Int32
  deriving DecidableEq, Inhabited

instance : Codec DeploymentStatus where
  encode x := .record [
    .optional "availableReplicas" x.availableReplicas,
    .optional "collisionCount" x.collisionCount,
    .optional "observedGeneration" x.observedGeneration,
    .optional "readyReplicas" x.readyReplicas,
    .optional "replicas" x.replicas,
    .optional "unavailableReplicas" x.unavailableReplicas,
    .optional "updatedReplicas" x.updatedReplicas]
  decode v := do
    let fields ← v.fields?
    return {
      availableReplicas := ← Record.optional? fields "availableReplicas"
      collisionCount := ← Record.optional? fields "collisionCount"
      observedGeneration := ← Record.optional? fields "observedGeneration"
      readyReplicas := ← Record.optional? fields "readyReplicas"
      replicas := ← Record.optional? fields "replicas"
      unavailableReplicas := ← Record.optional? fields "unavailableReplicas"
      updatedReplicas := ← Record.optional? fields "updatedReplicas" }

structure Deployment where
  metadata : ObjectMeta
  spec : Option DeploymentSpec
  status : Option DeploymentStatus
  deriving DecidableEq, Inhabited

instance : Codec Deployment where
  encode x := .record [
    .required "apiVersion" "apps/v1",
    .required "kind" "Deployment",
    .required "metadata" x.metadata,
    .optional "spec" x.spec,
    .optional "status" x.status]
  decode v := do
    let fields ← v.fields?
    Record.constant? fields "apiVersion" "apps/v1"
    Record.constant? fields "kind" "Deployment"
    return {
      metadata := ← Record.required? fields "metadata"
      spec := ← Record.optional? fields "spec"
      status := ← Record.optional? fields "status" }

end JupyterWorkloads
