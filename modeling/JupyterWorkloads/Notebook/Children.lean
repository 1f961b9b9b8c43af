import JupyterWorkloads.Child.Basic
import JupyterWorkloads.Defaults
import JupyterWorkloads.Notebook
import JupyterWorkloads.Pod.Completion

/-! The child of a notebook: a deployment of its server, told which gateway runs its kernels and how
users log in. -/
namespace JupyterWorkloads.Notebook

def name (n : Notebook) : String := n.metadata.anyName

def ns (n : Notebook) : String := n.metadata.ns.getD ""

def defaultTemplate (d : Defaults) : PodTemplate where
  metadata := none
  spec := some {
    (default : PodSpec) with
    containers := [{
      (default : Container) with
      args := some ["start-notebook.sh"]
      image := some d.notebookImage
      imagePullPolicy := some JupyterWorkloads.imagePullPolicy
      name := "notebook"
      ports := some [{
        containerPort := d.notebookPort
        hostPort := none
        name := some "notebook"
        protocol := some "TCP" }] }] }

def gatewayFlag : String := "--gateway-url"

def tokenFlag : String := "--NotebookApp.token"

def passwordFlag : String := "--NotebookApp.password"

/-- The login flags. With the login disabled both are given and empty. -/
def Auth.args (a : Auth) : List String :=
  if a.mode = some .disable then [tokenFlag, "", passwordFlag, ""]
  else
    (match a.token with
      | some token => [tokenFlag, token]
      | none => []) ++
    (match a.password with
      | some password => [passwordFlag, password]
      | none => [])

def gatewayUrl (d : Defaults) (ns name : String) : String :=
  "http://" ++ name ++ "." ++ ns ++ ":" ++ Text.ofInt d.gatewayPort.toInt

/-- A text that is set and not empty. -/
def given? (s : Option String) : Option String := s.filter fun t => !t.isEmpty

/-- The flags that point to the gateway. A reference without namespace means the notebook's. -/
def gatewayArgs (n : Notebook) (d : Defaults) : Except InvalidSpec (List String) :=
  match n.spec.gateway with
  | none => .ok []
  | some ref =>
    match given? ref.name with
    | none => .error .unnamedGateway
    | some name => .ok [gatewayFlag, gatewayUrl d ((given? ref.ns).getD n.ns) name]

def children (n : Notebook) (d : Defaults) : Except InvalidSpec ChildSet :=
  if n.spec.template.isNone ∧ n.spec.gateway.isNone then .error .emptyNotebook
  else do
    let selector := Labels.selector Label.notebook n.ns n.name
    let template ← (n.spec.template.getD (defaultTemplate d)).complete selector
    let gatewayArgs ← n.gatewayArgs d
    let authArgs := match n.spec.auth with
      | some auth => auth.args
      | none => []
    let template := template.mapFirstContainer fun c =>
      { c with args := some (c.args.getD [] ++ gatewayArgs ++ authArgs) }
    let metadata := Labels.childMetadata Label.notebook n.ns n.name
    return .ofList [.deployment (.ofTemplate metadata selector template)]

end JupyterWorkloads.Notebook
