import JupyterWorkloads.Group
import JupyterWorkloads.Metadata

/-! Labels of generated objects. Every child carries the pair it is selected by and the mark of its
manager. -/
namespace JupyterWorkloads.Labels

/-- The pair that every child of a parent is selected by. -/
def selector (parentLabel ns name : String) : StringTable :=
  Table.ofList [(Label.ns, ns), (parentLabel, name)]

def childMetadata (parentLabel ns name : String) : ObjectMeta :=
  { (default : ObjectMeta) with
    name := some name
    ns := some ns
    labels := some ((selector parentLabel ns name).insert Label.managedBy Label.manager) }

/-- The labels of a user overlaid with ours; ours win where both set one. -/
def merge (user : Option StringTable) (ours : StringTable) : StringTable :=
  (user.getD ∅).union ours

end JupyterWorkloads.Labels
