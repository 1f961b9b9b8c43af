import JupyterWorkloads.Deployment
import JupyterWorkloads.WorkloadStatus

/-! The status of a parent: the counts of its deployment, or the message that says what is wrong with
its spec. It is written only when it changes, and an absent status counts as the empty one. -/
namespace JupyterWorkloads.WorkloadStatus

/-- The counts of a deployment, with no message. -/
def ofDeployment (o : Deployment) : WorkloadStatus :=
  let observed := o.status.getD default
  { replicas := observed.replicas
    readyReplicas := observed.readyReplicas
    availableReplicas := observed.availableReplicas
    updatedReplicas := observed.updatedReplicas
    unavailableReplicas := observed.unavailableReplicas
    observedGeneration := observed.observedGeneration
    message := "" }

/-- The next status, unless the current one already says the same. -/
def changed? (current : Option WorkloadStatus) (next : WorkloadStatus) : Option WorkloadStatus :=
  if current.getD default = next then none else some next

/-- The status a parent should carry for its deployment, if it does not yet. -/
def project? (current : Option WorkloadStatus) (o : Deployment) : Option WorkloadStatus :=
  changed? current (ofDeployment o)

def withMessage? (current : Option WorkloadStatus) (message : String) : Option WorkloadStatus :=
  changed? current { current.getD default with message := message }

/-- The merge patch that writes the status. What is unset is sent as null, so that the patch removes
what an earlier status left. -/
def patch (s : WorkloadStatus) : Json :=
  let member {α : Type} [Codec α] (value : Option α) : Json := (value.map encode).getD .null
  .obj [("status", .obj [
    ("availableReplicas", member s.availableReplicas),
    ("message", if s.message.isEmpty then .null else .str s.message),
    ("observedGeneration", member s.observedGeneration),
    ("readyReplicas", member s.readyReplicas),
    ("replicas", member s.replicas),
    ("unavailableReplicas", member s.unavailableReplicas),
    ("updatedReplicas", member s.updatedReplicas)])]

end JupyterWorkloads.WorkloadStatus
