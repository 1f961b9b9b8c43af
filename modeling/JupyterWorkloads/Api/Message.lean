import JupyterWorkloads.Json.Reader
import JupyterWorkloads.Json.Text
import JupyterWorkloads.Program

/-! Requests to an API server and its responses. -/
namespace JupyterWorkloads.Api

inductive Method where
  | get
  | post
  | put
  | patch
  | delete
  deriving DecidableEq, Inhabited

namespace Method

def all : List Method := [get, post, put, patch, delete]

def name : Method → String
  | get => "GET"
  | post => "POST"
  | put => "PUT"
  | patch => "PATCH"
  | delete => "DELETE"

def ofName? (s : String) : Option Method := all.find? fun method => method.name == s

end Method

structure Request where
  method : Method
  path : String
  body : Option Json
  deriving DecidableEq, Inhabited

/-- The body of a response: a JSON value, or text that may be anything. -/
inductive Body where
  | json (value : Json)
  | text (text : String)
  deriving DecidableEq, Inhabited

namespace Body

def toText : Body → String
  | json v => v.text
  | text s => s

/-- How deep a value may be nested that is read as a whole. -/
def greatestDepth : Nat := 127

def value? : Body → Option Json
  | json v => some v
  | text s => (Json.ofText? s).filter fun v => v.depth ≤ greatestDepth

def read? {α : Type} (reader : Json → Option α) : Body → Option α
  | json v => reader v
  | text s => (Json.document? s).bind reader

end Body

structure Response where
  code : Nat
  body : Body
  deriving DecidableEq, Inhabited

def Response.isFailure (r : Response) : Bool := 400 ≤ r.code && r.code < 600

/-- The requests of a client. -/
def Calls : Interface where
  Request := Request
  Answer _ := Response

abbrev Action := Program Calls

def send (request : Request) : Action Response := @Program.call Calls request

end JupyterWorkloads.Api
