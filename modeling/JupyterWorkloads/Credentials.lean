import JupyterWorkloads.Json.Codec
import JupyterWorkloads.Json.Reader
import JupyterWorkloads.Kubeconfig
import JupyterWorkloads.Machine
import JupyterWorkloads.Text.Instant

/-! How a user proves its identity with each request. -/
namespace JupyterWorkloads

inductive Credentials where
  | nothing
  | password (username password : String)
  | token (token : String)
  /-- A token that is asked for again when it is old. -/
  | renewed (token : String)
  /-- A certificate and its key. -/
  | certificate (certificate key : String)
  deriving DecidableEq, Inhabited

def isHeaderChar (c : Char) : Bool := c = '\t' || (' ' ≤ c && c ≠ '\x7f')

def isHeaderValue (s : String) : Bool := s.toList.all isHeaderChar

namespace Credentials

open Kubeconfig
open Text.Armor (Octets)

/-- Whether requests can carry the credentials. Passwords are written in letters that always fit, and a
token that is renewed is looked at later. -/
def isSendable : Credentials → Bool
  | token t => isHeaderValue t
  | _ => true

/-- The credentials in the status that a command writes: a certificate goes before a token. -/
def ofStatus? (v : Json) : Option Credentials := do
  let names := ["expirationTimestamp", "token", "clientCertificateData", "clientKeyData"]
  let fields ← Record.declared? names.length names v
  let expiration : Option String ← Record.optional? fields "expirationTimestamp"
  let written : Option String ← Record.optional? fields "token"
  let chain ← Record.optional? fields "clientCertificateData"
  let key ← Record.optional? fields "clientKeyData"
  match chain, key with
  | some chain, some key => return .certificate chain key
  | _, _ =>
    guard (expiration.all fun text => (Text.Instant.ofText? text).isSome)
    return match written with
      | some t => if expiration.isSome then .renewed t else .token t
      | none => .nothing

def ofCommandOutput? (v : Json) : Option Credentials := do
  let names := ["kind", "apiVersion", "spec", "status"]
  let fields ← Record.declared? names.length names v
  let _ : Option String ← Record.optional? fields "kind"
  let _ : Option String ← Record.optional? fields "apiVersion"
  (← Record.read? (Record.nullable? ofStatus?) fields "status").join

def ofCommand? (machine : Machine) (command : Command) : Option Credentials := do
  let output ← machine.run (← command.program) command.arguments
  ofCommandOutput? (← Json.document? (← Text.Armor.toString? output))

/-- How long a token must be good for to be used at all, in seconds. -/
def leastValidity : Int := 60

/-- The token of a provider that is in the file with the time when it expires. -/
def ofCache? (machine : Machine) (provider : AuthProvider) : Option Credentials := do
  let t ← provider.config.lookup "access-token"
  let expiry ← Text.Instant.ofText? (← provider.config.lookup "expiry")
  if machine.now + leastValidity < expiry then some (.renewed t) else none

def ofProvider? (machine : Machine) (provider : AuthProvider) : Option Credentials :=
  let lasting := (provider.config.lookup "id-token").map .token
  if provider.name = "oidc" then lasting
  else if provider.name = "gcp" then lasting.or (ofCache? machine provider)
  else none

/-- How a user proves its identity. A provider goes first, then a password, a token, a file with a token,
and a command. -/
def ofUser? (machine : Machine) (user : User) : Option Credentials :=
  match user.provider, user.username, user.password, user.token, user.tokenFile, user.command with
  | some provider, _, _, _, _, _ => ofProvider? machine provider
  | none, some name, some word, _, _, _ => some (.password name word)
  | none, _, _, some t, _, _ => some (.token t)
  | none, _, _, none, some file, _ =>
    ((machine.readFile file).bind Text.Armor.toString?).map .renewed
  | none, _, _, none, none, some command => ofCommand? machine command
  | none, _, _, none, none, none => some .nothing

end Credentials

end JupyterWorkloads
