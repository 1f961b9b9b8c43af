import JupyterWorkloads.Certificate
import JupyterWorkloads.Credentials
import JupyterWorkloads.Text.HostName
import JupyterWorkloads.Text.Uri

/-! The connection to a cluster that the current context of a configuration leads to: where the cluster
is, in which namespace work is done, and how the user proves its identity. -/
namespace JupyterWorkloads

structure Connection where
  server : String
  ns : String
  credentials : Credentials
  deriving DecidableEq, Inhabited

namespace Connection

open Kubeconfig
open Text.Armor (Block Octets)

/-- Why there is no connection. -/
inductive Failure where
  /-- There is no file, or it does not say how to reach a cluster. -/
  | configuration
  /-- The cluster can be reached only in a way that is not supported. -/
  | client
  deriving DecidableEq, Inhabited

def Failure.message : Failure → String
  | configuration => "Failed to infer Kubernetes configuration"
  | client => "Failed to create Kubernetes client"

def load? (machine : Machine) (source : Source) : Option Octets :=
  match source.data with
  | some data => Text.Base64.decode? data.toList
  | none => source.file.bind machine.readFile

/-- The blocks that say which authorities to trust, if any are named. -/
def authorities? (machine : Machine) (source : Source) : Option (List Block) :=
  if source.data.isNone ∧ source.file.isNone then some []
  else (load? machine source).bind Text.Armor.blocks?

/-- Where a context leads, before a client is made for it. -/
structure Plan where
  server : String
  authorities : List Block
  proxy : Option String
  tlsServerName : Option String
  user : User
  ns : String
  deriving DecidableEq, Inhabited

/-- The plan for the current context. A user who is not in the file has nothing to prove. -/
def plan? (machine : Machine) (k : Kubeconfig) : Option Plan := do
  let context ← lookup? k.contexts (← k.currentContext)
  let cluster ← lookup? k.clusters context.cluster
  let server ← cluster.server.filter Text.Uri.isUri
  let authorities ← authorities? machine cluster.authority
  let proxy := cluster.proxyUrl.filter fun url => !url.isEmpty
  guard (proxy.all Text.Uri.isUri)
  return {
    server := server
    authorities := authorities
    proxy := proxy
    tlsServerName := cluster.tlsServerName
    user := (context.user.bind (lookup? k.users)).getD default
    ns := context.ns.getD "default" }

/-- Whether an authority can be trusted. Blocks that hold something else do not count. -/
def isTrusted (block : Block) : Bool :=
  block.label ≠ "CERTIFICATE" || Certificate.isCertificate block.content

def hasIdentity (machine : Machine) (user : User) (credentials : Credentials) : Bool :=
  (credentials matches .certificate ..) ||
    ((load? machine user.certificate).isSome && (load? machine user.key).isSome)

/-- The client for a plan. Neither proxies nor certificates of users are supported. -/
def ofPlan? (machine : Machine) (plan : Plan) : Option Connection := do
  guard (plan.proxy.isNone && plan.authorities.all isTrusted && plan.tlsServerName.all Text.isHost)
  guard (plan.user.actAs.all isHeaderValue && plan.user.actAsGroups.all isHeaderValue)
  let credentials ← Credentials.ofUser? machine plan.user
  guard (credentials.isSendable && !hasIdentity machine plan.user credentials)
  return { server := plan.server, ns := plan.ns, credentials := credentials }

def ofFile (machine : Machine) (file : Option String) : Except Failure Connection :=
  match (file.bind Kubeconfig.ofText?).bind (plan? machine) with
  | none => .error .configuration
  | some plan =>
    match ofPlan? machine plan with
    | none => .error .client
    | some connection => .ok connection

end Connection

end JupyterWorkloads
