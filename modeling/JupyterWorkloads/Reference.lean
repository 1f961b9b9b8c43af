import JupyterWorkloads.Failure
import JupyterWorkloads.KernelSpec
import JupyterWorkloads.KernelTemplate
import JupyterWorkloads.Program

/-! Looking up the kernel specs and kernel templates that parents name. -/
namespace JupyterWorkloads

inductive Resolved where
  | kernelSpec (object : KernelSpec)
  | kernelTemplate (object : KernelTemplate)
  deriving DecidableEq, Inhabited

def Lookups : Interface where
  Request := Lookup
  Answer _ := Except ResolveError Resolved

abbrev Resolving := ExceptT ResolveError (Program Lookups)

namespace Lookups

def resolve (lookup : Lookup) : Resolving Resolved := @Program.call Lookups lookup

/-- The kernel spec of the name; anything else found under it is an error. -/
def kernelSpec (ns name : String) : Resolving KernelSpec := do
  let lookup : Lookup := ⟨.kernelSpec, ns, name⟩
  match ← resolve lookup with
  | .kernelSpec spec => return spec
  | .kernelTemplate _ => throw (.unexpectedKind lookup)

def kernelTemplate (ns name : String) : Resolving KernelTemplate := do
  let lookup : Lookup := ⟨.kernelTemplate, ns, name⟩
  match ← resolve lookup with
  | .kernelTemplate template => return template
  | .kernelSpec _ => throw (.unexpectedKind lookup)

end Lookups

abbrev Resolver := Lookup → Except ResolveError Resolved

/-- A generator: it looks things up and gives its result or the reason why there is none. -/
abbrev Generating := ExceptT ReconcileError (Program Lookups)

namespace Generating

def ofResolving {α : Type} (p : Resolving α) : Generating α :=
  ExceptT.mk ((fun r => r.mapError ReconcileError.reference) <$> p.run)

def ofExcept {α : Type} : Except InvalidSpec α → Generating α
  | .ok a => pure a
  | .error reason => throw (.validation reason)

/-- What a generator gives with a resolver, and the lookups it made in order. -/
def resolve {α : Type} (resolver : Resolver) (p : Generating α) :
    Outcome (List Lookup) (Except ReconcileError α) :=
  p.run.run (fun (lookup : Lookup) (made : List Lookup) => (resolver lookup, made ++ [lookup])) []

end Generating

end JupyterWorkloads
