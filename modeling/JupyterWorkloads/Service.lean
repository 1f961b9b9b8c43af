import JupyterWorkloads.Deployment

/-! Services: one address in front of the pods that a selector matches. -/
namespace JupyterWorkloads

structure ServicePort where
  name : Option String
  nodePort : Option Int32
  port : Int32
  protocol : Option String
  targetPort : Option CountOrText
  deriving DecidableEq, Inhabited

instance : Codec ServicePort where
  encode x := .record [
    .optional "name" x.name,
    .optional "nodePort" x.nodePort,
    .required "port" x.port,
    .optional "protocol" x.protocol,
    .optional "targetPort" x.targetPort]
  decode v := do
    let fields ← v.fields?
    return {
      name := ← Record.optional? fields "name"
      nodePort := ← Record.optional? fields "nodePort"
      port := ← Record.required? fields "port"
      protocol := ← Record.optional? fields "protocol"
      targetPort := ← Record.optional? fields "targetPort" }

structure ServiceSpec where
  clusterIP : Option String
  clusterIPs : Option (List String)
  ports : Option (List ServicePort)
  selector : Option StringTable
  sessionAffinity : Option String
  type : Option String
  deriving DecidableEq, Inhabited

instance : Codec ServiceSpec where
  encode x := .record [
    .optional "clusterIP" x.clusterIP,
    .optional "clusterIPs" x.clusterIPs,
    .optional "ports" x.ports,
    .optional "selector" x.selector,
    .optional "sessionAffinity" x.sessionAffinity,
    .optional "type" x.type]
  decode v := do
    let fields ← v.fields?
    return {
      clusterIP := ← Record.optional? fields "clusterIP"
      clusterIPs := ← Record.optional? fields "clusterIPs"
      ports := ← Record.optional? fields "ports"
      selector := ← Record.optional? fields "selector"
      sessionAffinity := ← Record.optional? fields "sessionAffinity"
      type := ← Record.optional? fields "type" }

structure Service where
  metadata : ObjectMeta
  spec : Option ServiceSpec
  deriving DecidableEq, Inhabited

instance : Codec Service where
  encode x := .record [
    .required "apiVersion" "v1",
    .required "kind" "Service",
    .required "metadata" x.metadata,
    .optional "spec" x.spec]
  decode v := do
    let fields ← v.fields?
    Record.constant? fields "apiVersion" "v1"
    Record.constant? fields "kind" "Service"
    return {
      metadata := ← Record.required? fields "metadata"
      spec := ← Record.optional? fields "spec" }

end JupyterWorkloads
