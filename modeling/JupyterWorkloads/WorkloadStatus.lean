import JupyterWorkloads.Json.Codec

/-! The status that a parent carries for its workload. An empty message is not written. -/
namespace JupyterWorkloads

/-- The observed state of a parent whose workload is a deployment. The message says why the spec
cannot be reconciled and is empty when it can. -/
structure WorkloadStatus where
  replicas : Option Int32
  readyReplicas : Option Int32
  availableReplicas : Option Int32
  updatedReplicas : Option Int32
  unavailableReplicas : Option Int32
  observedGeneration : Option Int64
  message : String
  deriving DecidableEq, Inhabited

instance : Codec WorkloadStatus where
  encode x := .record [
    .optional "availableReplicas" x.availableReplicas,
    ⟨"message", if x.message.isEmpty then none else some (encode x.message)⟩,
    .optional "observedGeneration" x.observedGeneration,
    .optional "readyReplicas" x.readyReplicas,
    .optional "replicas" x.replicas,
    .optional "unavailableReplicas" x.unavailableReplicas,
    .optional "updatedReplicas" x.updatedReplicas]
  decode v := do
    let fields ← Record.declared? 0
      ["replicas", "readyReplicas", "availableReplicas", "updatedReplicas",
        "unavailableReplicas", "observedGeneration", "message"] v
    return {
      replicas := ← Record.optional? fields "replicas"
      readyReplicas := ← Record.optional? fields "readyReplicas"
      availableReplicas := ← Record.optional? fields "availableReplicas"
      updatedReplicas := ← Record.optional? fields "updatedReplicas"
      unavailableReplicas := ← Record.optional? fields "unavailableReplicas"
      observedGeneration := ← Record.optional? fields "observedGeneration"
      message := ← Record.defaulted? fields "message" }

end JupyterWorkloads
