import JupyterWorkloads.Child.Basic
import JupyterWorkloads.Defaults
import JupyterWorkloads.Gateway
import JupyterWorkloads.Pod.Completion
import JupyterWorkloads.Reference

/-! The children of a gateway: its identity, the role of that identity, the server and the service in
front of it. The kernel specs it offers are mounted from their config maps. -/
namespace JupyterWorkloads.Gateway

def name (g : Gateway) : String := g.metadata.anyName

def ns (g : Gateway) : String := g.metadata.ns.getD ""

def kernelNames (g : Gateway) : List String := g.spec.kernels.getD []

def env (g : Gateway) (d : Defaults) : List EnvVar :=
  [.literal "EG_DEFAULT_KERNEL_NAME" (g.spec.defaultKernel.getD d.defaultKernel),
    .literal "EG_KERNEL_CLUSTER_ROLE" (g.spec.clusterRole.getD d.gatewayClusterRole),
    .literal "EG_KERNEL_WHITELIST" (allowlist (g.spec.kernels.getD d.kernels)),
    .literal "EG_PORT" (Text.ofInt d.gatewayPort.toInt),
    .literal "EG_PORT_RANGE" "0..0",
    .literal "EG_NAMESPACE" g.ns,
    .literal "EG_NAME" g.name,
    .literal "EG_SHARED_NAMESPACE" "true",
    .literal "EG_MIRROR_WORKING_DIRS" "false",
    .literal "EG_CULL_IDLE_TIMEOUT"
      (Text.ofInt (g.spec.cullIdleTimeout.getD d.cullIdleTimeout).toInt),
    .literal "EG_KERNEL_LAUNCH_TIMEOUT" (Text.ofInt d.kernelLaunchTimeout.toInt),
    .literal "EG_KERNEL_IMAGE" d.kernelImage] ++
  match g.spec.cullInterval with
  | some interval => [.literal "EG_CULL_INTERVAL" (Text.ofInt interval.toInt)]
  | none => []

def trimmedPath (path : String) : String :=
  String.ofList (path.toList.reverse.dropWhile (· == '/')).reverse

def kernelVolume (kernel : String) : Volume where
  configMap := some { name := kernel }
  emptyDir := none
  name := kernel

def kernelMount (d : Defaults) (kernel : String) : VolumeMount where
  mountPath := trimmedPath d.kernelPath ++ "/" ++ kernel
  name := kernel
  readOnly := some true
  subPath := none

def selector (g : Gateway) : StringTable := Labels.selector Label.gateway g.ns g.name

def childMetadata (g : Gateway) : ObjectMeta := Labels.childMetadata Label.gateway g.ns g.name

def serviceAccount (g : Gateway) : ServiceAccount where
  automountServiceAccountToken := none
  metadata := g.childMetadata

def roleBinding (g : Gateway) (d : Defaults) : RoleBinding where
  metadata := g.childMetadata
  roleRef := {
    apiGroup := "rbac.authorization.k8s.io"
    kind := "ClusterRole"
    name := d.gatewayClusterRole }
  subjects := some [{ apiGroup := none, kind := "ServiceAccount", name := g.name, ns := some g.ns }]

def container (g : Gateway) (d : Defaults) : Container :=
  { (default : Container) with
    command := some ["/usr/local/bin/start-enterprise-gateway.sh"]
    env := some (g.env d)
    image := some (g.spec.image.getD d.gatewayImage)
    imagePullPolicy := some JupyterWorkloads.imagePullPolicy
    name := "gateway"
    ports := some [{
      containerPort := d.gatewayPort
      hostPort := none
      name := some "gateway"
      protocol := some "TCP" }]
    resources := g.spec.resources
    volumeMounts := some (g.kernelNames.map (kernelMount d)) }

def podTemplate (g : Gateway) (d : Defaults) : PodTemplate where
  metadata := some { (default : ObjectMeta) with labels := some g.selector }
  spec := some (PodSpec.complete
    { (default : PodSpec) with
      containers := [g.container d]
      serviceAccountName := some g.name
      volumes := some (g.kernelNames.map kernelVolume) })

def service (g : Gateway) (d : Defaults) : Service where
  metadata := g.childMetadata
  spec := some {
    (default : ServiceSpec) with
    ports := some [{
      (default : ServicePort) with
      name := some "gateway"
      port := d.gatewayPort
      protocol := some "TCP" }]
    selector := some g.selector
    sessionAffinity := some "ClientIP"
    type := some "ClusterIP" }

def children (g : Gateway) (d : Defaults) : ChildSet := .ofList [
  .serviceAccount g.serviceAccount,
  .roleBinding (g.roleBinding d),
  .deployment (.ofTemplate g.childMetadata g.selector (g.podTemplate d)),
  .service (g.service d)]

/-- Looks up kernel specs one after the other and stops at the first that is missing. -/
def resolveAll (ns : String) : List String → Resolving Unit
  | [] => pure ()
  | kernel :: rest => do
    let _ ← Lookups.kernelSpec ns kernel
    resolveAll ns rest

/-- Every kernel spec that the gateway names has to exist. -/
def generate (g : Gateway) (d : Defaults) : Generating ChildSet := do
  Generating.ofResolving (resolveAll g.ns g.kernelNames)
  return g.children d

end JupyterWorkloads.Gateway
