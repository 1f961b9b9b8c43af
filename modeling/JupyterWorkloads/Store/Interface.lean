import JupyterWorkloads.Child.Basic
import JupyterWorkloads.Failure
import JupyterWorkloads.Program

/-! Reads and writes of children, one request at a time. -/
namespace JupyterWorkloads.Store

inductive Call where
  /-- The object of the key, or nothing when there is none. -/
  | get (key : ChildKey)
  | create (child : Child)
  /-- Replaces an object; the child carries the version that was read. -/
  | replace (child : Child)
  /-- Deleting an object that is gone already succeeds. -/
  | delete (key : ChildKey)
  deriving DecidableEq, Inhabited

def Call.Answer : Call → Type
  | get _ => Except StoreError (Option Child)
  | create _ => Except StoreError Child
  | replace _ => Except StoreError Child
  | delete _ => Except StoreError Unit

def Call.key : Call → ChildKey
  | get key => key
  | create child => child.key
  | replace child => child.key
  | delete key => key

def Calls : Interface where
  Request := Call
  Answer := Call.Answer

abbrev Action := Program Calls

def get (key : ChildKey) : Action (Except StoreError (Option Child)) :=
  @Program.call Calls (.get key)

def create (child : Child) : Action (Except StoreError Child) := @Program.call Calls (.create child)

def replace (child : Child) : Action (Except StoreError Child) :=
  @Program.call Calls (.replace child)

def delete (key : ChildKey) : Action (Except StoreError Unit) := @Program.call Calls (.delete key)

end JupyterWorkloads.Store
