import JupyterWorkloads.Text.Armor
import JupyterWorkloads.Yaml
import JupyterWorkloads.Yaml.Record

/-! The file that says how to reach a cluster: named clusters, named users, named contexts that join a
cluster with a user and a namespace, and the name of the current context. A file may hold several
documents, which are merged. -/
namespace JupyterWorkloads

namespace Kubeconfig

/-- A named part of the file; the part itself may be missing. -/
structure Named (α : Type) where
  name : String
  body : Option α
  deriving DecidableEq, Inhabited

/-- Octets that are written in the file with sixty-four letters, or kept in a file of their own. What is
written goes first. -/
structure Source where
  data : Option String
  file : Option String
  deriving DecidableEq, Inhabited

structure Cluster where
  server : Option String
  authority : Source
  proxyUrl : Option String
  tlsServerName : Option String
  deriving DecidableEq, Inhabited

/-- Someone who knows an identity, with what is told about it. -/
structure AuthProvider where
  name : String
  config : List (String × String)
  deriving DecidableEq, Inhabited

structure Command where
  program : Option String
  arguments : List String
  deriving DecidableEq, Inhabited

structure User where
  username : Option String
  password : Option String
  token : Option String
  tokenFile : Option String
  certificate : Source
  key : Source
  /-- The user to act as. -/
  actAs : Option String
  actAsGroups : List String
  provider : Option AuthProvider
  command : Option Command
  deriving DecidableEq, Inhabited

structure Context where
  cluster : String
  user : Option String
  ns : Option String
  deriving DecidableEq, Inhabited

end Kubeconfig

structure Kubeconfig where
  kind : Option String
  apiVersion : Option String
  clusters : List (Kubeconfig.Named Kubeconfig.Cluster)
  users : List (Kubeconfig.Named Kubeconfig.User)
  contexts : List (Kubeconfig.Named Kubeconfig.Context)
  currentContext : Option String
  deriving DecidableEq, Inhabited

namespace Kubeconfig

open Yaml (Value Fields)
open Yaml.Record (declared? optional? mandatory? defaulted? list?)

def text? : Fields → String → Option (Option String) := optional? Value.text?

def bool? : Fields → String → Option (Option Bool) := optional? Value.bool?

/-- Reads an extension, of which nothing is kept. -/
def extensionOfValue? (v : Value) : Option Unit := do
  let fields ← declared? ["name", "extension"] v
  let _ ← mandatory? Value.text? fields "name"
  mandatory? (fun v => if v.isData then some () else none) fields "extension"

def extensions? (fields : Fields) : Option (List Unit) := list? extensionOfValue? fields "extensions"

def Source.ofFields? (fields : Fields) (name : String) : Option Source := do
  return { data := ← text? fields (name ++ "-data"), file := ← text? fields name }

def Cluster.ofValue? (v : Value) : Option Cluster := do
  let fields ← declared? [
    "server", "insecure-skip-tls-verify", "certificate-authority", "certificate-authority-data",
    "proxy-url", "disable-compression", "tls-server-name", "extensions"] v
  let _ ← bool? fields "insecure-skip-tls-verify"
  let _ ← bool? fields "disable-compression"
  let _ ← extensions? fields
  return {
    server := ← text? fields "server"
    authority := ← Source.ofFields? fields "certificate-authority"
    proxyUrl := ← text? fields "proxy-url"
    tlsServerName := ← text? fields "tls-server-name" }

def AuthProvider.ofValue? (v : Value) : Option AuthProvider := do
  let fields ← declared? ["name", "config"] v
  return {
    name := ← mandatory? Value.text? fields "name"
    config := ← defaulted? Value.texts? fields "config" }

/-- Reads when a command may ask its user: a word, alone or as a tag of nothing. -/
def interactiveModeOfValue? (v : Value) : Option Unit := do
  let word ← match v with
    | .str word => some word
    | .tagged word content => if content.untagged matches .null then some word else none
    | _ => none
  if ["Never", "IfAvailable", "Always"].contains word then some () else none

def Command.ofValue? (v : Value) : Option Command := do
  let fields ← declared?
    ["apiVersion", "command", "args", "env", "interactiveMode", "provideClusterInfo"] v
  let _ ← text? fields "apiVersion"
  let _ ← list? Value.texts? fields "env"
  let _ ← optional? interactiveModeOfValue? fields "interactiveMode"
  let _ ← defaulted? Value.bool? fields "provideClusterInfo"
  return {
    program := ← text? fields "command"
    arguments := ← list? Value.text? fields "args" }

def User.ofValue? (v : Value) : Option User := do
  let fields ← declared? [
    "username", "password", "token", "tokenFile", "client-certificate", "client-certificate-data",
    "client-key", "client-key-data", "as", "as-groups", "auth-provider", "exec"] v
  return {
    username := ← text? fields "username"
    password := ← text? fields "password"
    token := ← text? fields "token"
    tokenFile := ← text? fields "tokenFile"
    certificate := ← Source.ofFields? fields "client-certificate"
    key := ← Source.ofFields? fields "client-key"
    actAs := ← text? fields "as"
    actAsGroups := ← list? Value.text? fields "as-groups"
    provider := ← optional? AuthProvider.ofValue? fields "auth-provider"
    command := ← optional? Command.ofValue? fields "exec" }

def Context.ofValue? (v : Value) : Option Context := do
  let fields ← declared? ["cluster", "user", "namespace", "extensions"] v
  let _ ← extensions? fields
  return {
    cluster := ← mandatory? Value.text? fields "cluster"
    user := ← text? fields "user"
    ns := ← text? fields "namespace" }

def Named.ofValue? {α : Type} (member : String) (reader : Value → Option α) (v : Value) :
    Option (Named α) := do
  let fields ← declared? ["name", member] v
  return {
    name := ← mandatory? Value.text? fields "name"
    body := ← optional? reader fields member }

/-- Reads preferences, of which nothing is kept. -/
def preferencesOfValue? (v : Value) : Option Unit := do
  let fields ← declared? ["colors", "extensions"] v
  let _ ← bool? fields "colors"
  let _ ← extensions? fields
  return ()

def ofValue? (v : Value) : Option Kubeconfig := do
  let fields ← declared? [
    "preferences", "clusters", "users", "contexts", "current-context", "extensions", "kind",
    "apiVersion"] v
  let _ ← optional? preferencesOfValue? fields "preferences"
  let _ ← extensions? fields
  return {
    kind := ← text? fields "kind"
    apiVersion := ← text? fields "apiVersion"
    clusters := ← list? (Named.ofValue? "cluster" Cluster.ofValue?) fields "clusters"
    users := ← list? (Named.ofValue? "user" User.ofValue?) fields "users"
    contexts := ← list? (Named.ofValue? "context" Context.ofValue?) fields "contexts"
    currentContext := ← text? fields "current-context" }

def agree (a b : Option String) : Bool := a.isNone || b.isNone || a = b

/-- Merges two documents of one kind and version. What the first one says goes first. -/
def merge? (a b : Kubeconfig) : Option Kubeconfig :=
  if agree a.kind b.kind && agree a.apiVersion b.apiVersion then
    some {
      kind := a.kind.or b.kind
      apiVersion := a.apiVersion.or b.apiVersion
      clusters := a.clusters ++ b.clusters
      users := a.users ++ b.users
      contexts := a.contexts ++ b.contexts
      currentContext := a.currentContext.or b.currentContext }
  else none

def ofText? (text : String) : Option Kubeconfig := do
  match ← (← Yaml.values? text).mapM ofValue? with
  | [] => some default
  | first :: rest => rest.foldlM merge? first

/-- The part under a name: the first one with the name counts. -/
def lookup? {α : Type} (parts : List (Named α)) (name : String) : Option α :=
  (parts.find? fun part => part.name = name).bind Named.body

end Kubeconfig

end JupyterWorkloads
