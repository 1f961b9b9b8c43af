import JupyterWorkloads.Deployment
import JupyterWorkloads.Failure
import JupyterWorkloads.Labels

/-! Completed pod templates. The fields that the API server would fill in are set up front, so that
its defaults never show up as drift. -/
namespace JupyterWorkloads

/-- The pull policy of every container that sets none. -/
def imagePullPolicy : String := "IfNotPresent"

/-- Sets the termination and pull defaults where the container leaves them open. -/
def Container.complete (c : Container) : Container :=
  { c with
    terminationMessagePath := c.terminationMessagePath.or (some "/dev/termination-log")
    terminationMessagePolicy := c.terminationMessagePolicy.or (some "File")
    imagePullPolicy := c.imagePullPolicy.or (some JupyterWorkloads.imagePullPolicy) }

/-- Sets the pod defaults where the spec leaves them open, and completes its containers. -/
def PodSpec.complete (s : PodSpec) : PodSpec :=
  { s with
    containers := s.containers.map Container.complete
    restartPolicy := s.restartPolicy.or (some "Always")
    terminationGracePeriodSeconds := s.terminationGracePeriodSeconds.or (some 30)
    dnsPolicy := s.dnsPolicy.or (some "ClusterFirst")
    securityContext := s.securityContext.or (some default)
    schedulerName := s.schedulerName.or (some "default-scheduler") }

namespace PodTemplate

/-- The spec of a template that has a container. -/
def usableSpec? (t : PodTemplate) : Option PodSpec :=
  t.spec.filter fun spec => !spec.containers.isEmpty

/-- The completed template with the labels put on its pods. -/
def complete (t : PodTemplate) (labels : StringTable) : Except InvalidSpec PodTemplate :=
  match t.usableSpec? with
  | none => .error .noContainers
  | some spec =>
    let metadata := t.metadata.getD default
    .ok {
      metadata := some { metadata with labels := some (Labels.merge metadata.labels labels) }
      spec := some spec.complete }

def mapFirstContainer (f : Container → Container) (t : PodTemplate) : PodTemplate :=
  { t with spec := t.spec.map fun spec =>
      { spec with containers := match spec.containers with
          | [] => []
          | first :: rest => f first :: rest } }

def firstContainer? (t : PodTemplate) : Option Container :=
  t.spec.bind fun spec => spec.containers.head?

end PodTemplate

/-- One pod of the template, replaced step by step when the template changes. -/
def Deployment.ofTemplate (metadata : ObjectMeta) (selector : StringTable) (template : PodTemplate) :
    Deployment where
  metadata := metadata
  spec := some {
    (default : DeploymentSpec) with
    progressDeadlineSeconds := some 600
    replicas := some 1
    revisionHistoryLimit := some 10
    selector := { matchLabels := some selector }
    strategy := some {
      rollingUpdate := some { maxSurge := some (.text "25%"), maxUnavailable := some (.text "25%") }
      type := some "RollingUpdate" }
    template := template }
  status := none

def EnvVar.literal (name value : String) : EnvVar where
  name := name
  value := some value
  valueFrom := none

end JupyterWorkloads
