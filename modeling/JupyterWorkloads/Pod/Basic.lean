import JupyterWorkloads.Metadata

/-! Pods and the templates they are made from. -/
namespace JupyterWorkloads

structure FieldSelector where
  apiVersion : Option String
  fieldPath : String
  deriving DecidableEq, Inhabited

instance : Codec FieldSelector where
  encode x := .record [
    .optional "apiVersion" x.apiVersion,
    .required "fieldPath" x.fieldPath]
  decode v := do
    let fields ← v.fields?
    return {
      apiVersion := ← Record.optional? fields "apiVersion"
      fieldPath := ← Record.required? fields "fieldPath" }

structure SecretKeySelector where
  key : String
  name : String
  optional : Option Bool
  deriving DecidableEq, Inhabited

instance : Codec SecretKeySelector where
  encode x := .record [
    .required "key" x.key,
    .required "name" x.name,
    .optional "optional" x.optional]
  decode v := do
    let fields ← v.fields?
    return {
      key := ← Record.required? fields "key"
      name := ← Record.required? fields "name"
      optional := ← Record.optional? fields "optional" }

structure EnvVarSource where
  fieldRef : Option FieldSelector
  secretKeyRef : Option SecretKeySelector
  deriving DecidableEq, Inhabited

instance : Codec EnvVarSource where
  encode x := .record [
    .optional "fieldRef" x.fieldRef,
    .optional "secretKeyRef" x.secretKeyRef]
  decode v := do
    let fields ← v.fields?
    return {
      fieldRef := ← Record.optional? fields "fieldRef"
      secretKeyRef := ← Record.optional? fields "secretKeyRef" }

/-- An environment variable with a literal value, a source, or neither. -/
structure EnvVar where
  name : String
  value : Option String
  valueFrom : Option EnvVarSource
  deriving DecidableEq, Inhabited

instance : Codec EnvVar where
  encode x := .record [
    .required "name" x.name,
    .optional "value" x.value,
    .optional "valueFrom" x.valueFrom]
  decode v := do
    let fields ← v.fields?
    return {
      name := ← Record.required? fields "name"
      value := ← Record.optional? fields "value"
      valueFrom := ← Record.optional? fields "valueFrom" }

structure ContainerPort where
  containerPort : Int32
  hostPort : Option Int32
  name : Option String
  protocol : Option String
  deriving DecidableEq, Inhabited

instance : Codec ContainerPort where
  encode x := .record [
    .required "containerPort" x.containerPort,
    .optional "hostPort" x.hostPort,
    .optional "name" x.name,
    .optional "protocol" x.protocol]
  decode v := do
    let fields ← v.fields?
    return {
      containerPort := ← Record.required? fields "containerPort"
      hostPort := ← Record.optional? fields "hostPort"
      name := ← Record.optional? fields "name"
      protocol := ← Record.optional? fields "protocol" }

structure VolumeMount where
  mountPath : String
  name : String
  readOnly : Option Bool
  subPath : Option String
  deriving DecidableEq, Inhabited

instance : Codec VolumeMount where
  encode x := .record [
    .required "mountPath" x.mountPath,
    .required "name" x.name,
    .optional "readOnly" x.readOnly,
    .optional "subPath" x.subPath]
  decode v := do
    let fields ← v.fields?
    return {
      mountPath := ← Record.required? fields "mountPath"
      name := ← Record.required? fields "name"
      readOnly := ← Record.optional? fields "readOnly"
      subPath := ← Record.optional? fields "subPath" }

structure ResourceRequirements where
  limits : Option StringTable
  requests : Option StringTable
  deriving DecidableEq, Inhabited

instance : Codec ResourceRequirements where
  encode x := .record [
    .optional "limits" x.limits,
    .optional "requests" x.requests]
  decode v := do
    let fields ← v.fields?
    return {
      limits := ← Record.optional? fields "limits"
      requests := ← Record.optional? fields "requests" }

structure Container where
  args : Option (List String)
  command : Option (List String)
  env : Option (List EnvVar)
  image : Option String
  imagePullPolicy : Option String
  name : String
  ports : Option (List ContainerPort)
  resources : Option ResourceRequirements
  terminationMessagePath : Option String
  terminationMessagePolicy : Option String
  volumeMounts : Option (List VolumeMount)
  workingDir : Option String
  deriving DecidableEq, Inhabited

instance : Codec Container where
  encode x := .record [
    .optional "args" x.args,
    .optional "command" x.command,
    .optional "env" x.env,
    .optional "image" x.image,
    .optional "imagePullPolicy" x.imagePullPolicy,
    .required "name" x.name,
    .optional "ports" x.ports,
    .optional "resources" x.resources,
    .optional "terminationMessagePath" x.terminationMessagePath,
    .optional "terminationMessagePolicy" x.terminationMessagePolicy,
    .optional "volumeMounts" x.volumeMounts,
    .optional "workingDir" x.workingDir]
  decode v := do
    let fields ← v.fields?
    return {
      args := ← Record.optional? fields "args"
      command := ← Record.optional? fields "command"
      env := ← Record.optional? fields "env"
      image := ← Record.optional? fields "image"
      imagePullPolicy := ← Record.optional? fields "imagePullPolicy"
      name := ← Record.required? fields "name"
      ports := ← Record.optional? fields "ports"
      resources := ← Record.optional? fields "resources"
      terminationMessagePath := ← Record.optional? fields "terminationMessagePath"
      terminationMessagePolicy := ← Record.optional? fields "terminationMessagePolicy"
      volumeMounts := ← Record.optional? fields "volumeMounts"
      workingDir := ← Record.optional? fields "workingDir" }

/-- A volume with the entries of a config map as files. -/
structure ConfigMapVolume where
  name : String
  deriving DecidableEq, Inhabited

instance : Codec ConfigMapVolume where
  encode x := .record [
    .required "name" x.name]
  decode v := do
    let fields ← v.fields?
    return {
      name := ← Record.required? fields "name" }

structure EmptyDirVolume where
  medium : Option String
  sizeLimit : Option String
  deriving DecidableEq, Inhabited

instance : Codec EmptyDirVolume where
  encode x := .record [
    .optional "medium" x.medium,
    .optional "sizeLimit" x.sizeLimit]
  decode v := do
    let fields ← v.fields?
    return {
      medium := ← Record.optional? fields "medium"
      sizeLimit := ← Record.optional? fields "sizeLimit" }

structure Volume where
  configMap : Option ConfigMapVolume
  emptyDir : Option EmptyDirVolume
  name : String
  deriving DecidableEq, Inhabited

instance : Codec Volume where
  encode x := .record [
    .optional "configMap" x.configMap,
    .optional "emptyDir" x.emptyDir,
    .required "name" x.name]
  decode v := do
    let fields ← v.fields?
    return {
      configMap := ← Record.optional? fields "configMap"
      emptyDir := ← Record.optional? fields "emptyDir"
      name := ← Record.required? fields "name" }

structure PodSecurityContext where
  fsGroup : Option Int64
  runAsNonRoot : Option Bool
  runAsUser : Option Int64
  deriving DecidableEq, Inhabited

instance : Codec PodSecurityContext where
  encode x := .record [
    .optional "fsGroup" x.fsGroup,
    .optional "runAsNonRoot" x.runAsNonRoot,
    .optional "runAsUser" x.runAsUser]
  decode v := do
    let fields ← v.fields?
    return {
      fsGroup := ← Record.optional? fields "fsGroup"
      runAsNonRoot := ← Record.optional? fields "runAsNonRoot"
      runAsUser := ← Record.optional? fields "runAsUser" }

structure PodSpec where
  containers : List Container
  dnsPolicy : Option String
  hostNetwork : Option Bool
  initContainers : Option (List Container)
  nodeSelector : Option StringTable
  priority : Option Int32
  restartPolicy : Option String
  schedulerName : Option String
  securityContext : Option PodSecurityContext
  serviceAccountName : Option String
  terminationGracePeriodSeconds : Option Int64
  volumes : Option (List Volume)
  deriving DecidableEq, Inhabited

instance : Codec PodSpec where
  encode x := .record [
    .required "containers" x.containers,
    .optional "dnsPolicy" x.dnsPolicy,
    .optional "hostNetwork" x.hostNetwork,
    .optional "initContainers" x.initContainers,
    .optional "nodeSelector" x.nodeSelector,
    .optional "priority" x.priority,
    .optional "restartPolicy" x.restartPolicy,
    .optional "schedulerName" x.schedulerName,
    .optional "securityContext" x.securityContext,
    .optional "serviceAccountName" x.serviceAccountName,
    .optional "terminationGracePeriodSeconds" x.terminationGracePeriodSeconds,
    .optional "volumes" x.volumes]
  decode v := do
    let fields ← v.fields?
    return {
      containers := ← Record.required? fields "containers"
      dnsPolicy := ← Record.optional? fields "dnsPolicy"
      hostNetwork := ← Record.optional? fields "hostNetwork"
      initContainers := ← Record.optional? fields "initContainers"
      nodeSelector := ← Record.optional? fields "nodeSelector"
      priority := ← Record.optional? fields "priority"
      restartPolicy := ← Record.optional? fields "restartPolicy"
      schedulerName := ← Record.optional? fields "schedulerName"
      securityContext := ← Record.optional? fields "securityContext"
      serviceAccountName := ← Record.optional? fields "serviceAccountName"
      terminationGracePeriodSeconds := ← Record.optional? fields "terminationGracePeriodSeconds"
      volumes := ← Record.optional? fields "volumes" }

structure PodTemplate where
  metadata : Option ObjectMeta
  spec : Option PodSpec
  deriving DecidableEq, Inhabited

instance : Codec PodTemplate where
  encode x := .record [
    .optional "metadata" x.metadata,
    .optional "spec" x.spec]
  decode v := do
    let fields ← v.fields?
    return {
      metadata := ← Record.optional? fields "metadata"
      spec := ← Record.optional? fields "spec" }

structure Pod where
  metadata : ObjectMeta
  spec : Option PodSpec
  deriving DecidableEq, Inhabited

instance : Codec Pod where
  encode x := .record [
    .required "apiVersion" "v1",
    .required "kind" "Pod",
    .required "metadata" x.metadata,
    .optional "spec" x.spec]
  decode v := do
    let fields ← v.fields?
    Record.constant? fields "apiVersion" "v1"
    Record.constant? fields "kind" "Pod"
    return {
      metadata := ← Record.required? fields "metadata"
      spec := ← Record.optional? fields "spec" }

end JupyterWorkloads
