import JupyterWorkloads.ObjectRef
import JupyterWorkloads.Table

/-! The kinds of objects that are generated for a parent, in the order they are converged:
identities and permissions before the workloads that run under them, workloads before the services
in front of them. -/
namespace JupyterWorkloads

inductive ChildKind where
  | serviceAccount
  | roleBinding
  | configMap
  | deployment
  | service
  deriving DecidableEq, Inhabited

namespace ChildKind

def all : List ChildKind := [serviceAccount, roleBinding, configMap, deployment, service]

def rank : ChildKind → Nat
  | serviceAccount => 0
  | roleBinding => 1
  | configMap => 2
  | deployment => 3
  | service => 4

def name : ChildKind → String
  | serviceAccount => "ServiceAccount"
  | roleBinding => "RoleBinding"
  | configMap => "ConfigMap"
  | deployment => "Deployment"
  | service => "Service"

def ofName? (s : String) : Option ChildKind := all.find? fun kind => kind.name == s

def plural : ChildKind → String
  | serviceAccount => "serviceaccounts"
  | roleBinding => "rolebindings"
  | configMap => "configmaps"
  | deployment => "deployments"
  | service => "services"

/-- The API group of the kind; the core kinds have none. -/
def group : ChildKind → Option String
  | roleBinding => some "rbac.authorization.k8s.io"
  | deployment => some "apps"
  | _ => none

theorem rank_injective {a b : ChildKind} (h : a.rank = b.rank) : a = b := by
  cases a <;> cases b <;> first | rfl | cases h

def objectRef (kind : ChildKind) (ns name : String) : ObjectRef where
  kind := kind.name
  version := some "v1"
  group := kind.group
  ns := some ns
  name := name

end ChildKind

/-- What identifies a child on the cluster. -/
structure ChildKey where
  kind : ChildKind
  ns : String
  name : String
  deriving DecidableEq, Inhabited

namespace ChildKey

def ref (key : ChildKey) : ObjectRef := key.kind.objectRef key.ns key.name

/-- Keys are ordered by kind, then namespace, then name. -/
instance : LT ChildKey where
  lt a b := a.kind.rank < b.kind.rank ∨
    (a.kind = b.kind ∧ (a.ns < b.ns ∨ (a.ns = b.ns ∧ a.name < b.name)))

theorem lt_def {a b : ChildKey} : a < b ↔ a.kind.rank < b.kind.rank ∨
    (a.kind = b.kind ∧ (a.ns < b.ns ∨ (a.ns = b.ns ∧ a.name < b.name))) := Iff.rfl

instance : DecidableLT ChildKey := fun a b =>
  inferInstanceAs (Decidable (a.kind.rank < b.kind.rank ∨
    (a.kind = b.kind ∧ (a.ns < b.ns ∨ (a.ns = b.ns ∧ a.name < b.name)))))

instance : KeyOrder ChildKey where
  irrefl a h := by
    rcases lt_def.mp h with h | ⟨_, h | ⟨_, h⟩⟩
    · exact Nat.lt_irrefl _ h
    · exact String.lt_irrefl _ h
    · exact String.lt_irrefl _ h
  trans {a b c} h h' := by
    rcases lt_def.mp h with h | ⟨hk, h⟩
    · rcases lt_def.mp h' with h' | ⟨hk', _⟩
      · exact Or.inl (Nat.lt_trans h h')
      · exact Or.inl (hk' ▸ h)
    · rcases lt_def.mp h' with h' | ⟨hk', h'⟩
      · exact Or.inl (hk ▸ h')
      · refine Or.inr ⟨hk.trans hk', ?_⟩
        rcases h with h | ⟨hn, h⟩
        · rcases h' with h' | ⟨hn', _⟩
          · exact Or.inl (String.lt_trans h h')
          · exact Or.inl (hn' ▸ h)
        · rcases h' with h' | ⟨hn', h'⟩
          · exact Or.inl (hn ▸ h')
          · exact Or.inr ⟨hn.trans hn', String.lt_trans h h'⟩
  connected {a b} h h' := by
    have kinds : a.kind = b.kind := ChildKind.rank_injective (Nat.le_antisymm
      (Nat.le_of_not_lt fun lt => h' (Or.inl lt)) (Nat.le_of_not_lt fun lt => h (Or.inl lt)))
    have spaces : a.ns = b.ns := String.le_antisymm
      (String.not_lt.mp fun lt => h' (Or.inr ⟨kinds.symm, Or.inl lt⟩))
      (String.not_lt.mp fun lt => h (Or.inr ⟨kinds, Or.inl lt⟩))
    have names : a.name = b.name := String.le_antisymm
      (String.not_lt.mp fun lt => h' (Or.inr ⟨kinds.symm, Or.inr ⟨spaces.symm, lt⟩⟩))
      (String.not_lt.mp fun lt => h (Or.inr ⟨kinds, Or.inr ⟨spaces, lt⟩⟩))
    cases a
    cases b
    cases kinds
    cases spaces
    cases names
    rfl

end ChildKey

end JupyterWorkloads
