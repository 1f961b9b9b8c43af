import Mathlib.Data.List.Induction
import JupyterWorkloads.Proofs.Converge.Reliable

/-! The controllers of a child. A pass attaches its owner and keeps every other owner, controllers
included; only an object that is made afresh starts with one. So an object has one controller for each
uid among the owners that claimed it since it was made. -/
namespace JupyterWorkloads

namespace Child

open Store.Memory

def role? : Child → Option RoleRef
  | .roleBinding o => some o.roleRef
  | _ => none

def controllers (c : Child) : List OwnerReference := c.owners.filter fun o => o.controller = some true

section Role

@[simp] theorem role?_withMetadata (m : ObjectMeta) (c : Child) :
    (c.withMetadata m).role? = c.role? := by
  cases c <;> rfl

@[simp] theorem role?_mapMetadata (f : ObjectMeta → ObjectMeta) (c : Child) :
    (c.mapMetadata f).role? = c.role? :=
  role?_withMetadata _ c

@[simp] theorem role?_prepare (c : Child) (owner : OwnerReference) :
    (c.prepare owner).role? = c.role? := by
  rw [prepare_eq, role?_mapMetadata]

@[simp] theorem role?_admitted (version : Nat) (c : Child) : (admitted version c).role? = c.role? := by
  cases c <;> rfl

theorem role?_created (version : Nat) (desired : Child) :
    (created version desired).role? = desired.role? := by
  rw [created, role?_admitted, unversioned, role?_mapMetadata]

theorem role?_replaced (version : Nat) (live desired : Child) (owner : OwnerReference) :
    (replaced version live desired owner).role? = desired.role? := by
  rw [replaced, role?_admitted, carryOver, role?_mapMetadata, replacement, mapMetadata,
    keepAddresses_withMetadata, role?_withMetadata]
  cases live <;> cases desired <;> try rfl
  rename_i live desired
  rcases live with ⟨_, _ | _⟩ <;> rcases desired with ⟨_, _ | _⟩ <;> rfl

theorem roleChanged_iff {live desired : Child} (kinds : live.kind = desired.kind) :
    roleChanged live desired = true ↔ live.role? ≠ desired.role? := by
  cases live <;> cases desired <;> try cases kinds
  all_goals simp [roleChanged, role?]

theorem roleRef_eq_of_contains {live desired : RoleRef}
    (h : Drift.contains (encode live) (encode desired) = true) : live = desired := by
  obtain ⟨group, kind, name⟩ := live
  obtain ⟨group', kind', name'⟩ := desired
  simpa [encode, Json.record, Member.required, Drift.contains, Drift.containsFields, Rows.get?_cons,
    Drift.sameScalar, Member.rows] using h

theorem role?_of_isConverged {live desired : Child} {owner : OwnerReference}
    (converged : live.isConverged desired owner = true) : live.role? = desired.role? := by
  have kinds := kind_of_isConverged converged
  have holds := (isConverged_iff.mp converged).2.2
  rw [unownedJson_eq] at holds
  cases live <;> cases desired <;> try cases kinds
  all_goals try rfl
  rename_i live desired
  refine congrArg some (roleRef_eq_of_contains ?_)
  exact Drift.contains_member (Member.inOrder_of_names (by simp +decide)) holds
    (show .required "roleRef" live.roleRef ∈ _ by simp)
    (show .required "roleRef" desired.roleRef ∈ _ by simp) rfl rfl rfl

end Role

end Child

namespace Converge

open Store Memory

/-- Who claimed an object since it was last made, and the role it gives if it is a binding. -/
structure Claims where
  owners : List OwnerReference
  role : Option RoleRef

/-- The claims after another round. A round that has no child under the key changes nothing; one that
gives a binding another role makes it afresh. -/
def Claims.next (key : ChildKey) (claims : Claims) (r : Round) : Claims :=
  match r.set.toList.find? fun c => c.key = key with
  | none => claims
  | some c =>
    if c.role? = claims.role then { claims with owners := claims.owners ++ [r.owner] }
    else { owners := [r.owner], role := c.role? }

def claims (key : ChildKey) (rounds : List Round) : Claims :=
  rounds.foldl (Claims.next key) { owners := [], role := none }

def Claims.uids (claims : Claims) : List String := claims.owners.map OwnerReference.uid

/-- The object gives the role of its claims, and its owners are one controller for each uid that claims
it. -/
structure Held (key : ChildKey) (claims : Claims) (live : Child) : Prop where
  kind : live.kind = key.kind
  role : live.role? = claims.role
  claimed : claims.owners ≠ []
  controllers : ∀ o ∈ live.owners, o.controller = some true
  distinct : (live.owners.map OwnerReference.uid).Nodup
  same : ∀ uid, uid ∈ live.owners.map OwnerReference.uid ↔ uid ∈ claims.uids

def Agrees (key : ChildKey) (claims : Claims) : Option Child → Prop
  | none => claims = { owners := [], role := none }
  | some live => Held key claims live

section Step

variable {owner : OwnerReference} {c live : Child} {claims : Claims}

theorem held_kept (h : Held c.key claims live) (mine : live.isOwnedBy owner = true) :
    Held c.key { claims with owners := claims.owners ++ [owner] } live := by
  have attached : owner.uid ∈ live.owners.map OwnerReference.uid := by
    obtain ⟨o, ho, same, _⟩ := Child.isOwnedBy_iff.mp mine
    exact List.mem_map.mpr ⟨o, ho, same⟩
  refine ⟨h.kind, h.role, List.append_ne_nil_of_right_ne_nil _ (List.cons_ne_nil _ _), h.controllers,
    h.distinct, ?_⟩
  intro uid
  rw [Claims.uids, List.map_append, List.mem_append, ← Claims.uids, ← h.same]
  constructor
  · exact Or.inl
  · rintro (known | mine)
    · exact known
    · rw [List.mem_singleton.mp mine]
      exact attached

variable (controls : owner.controller = some true)

include controls

theorem held_created (version : Nat) (c : Child) : Held c.key { owners := [owner], role := c.role? }
    (.created version (c.prepare owner)) where
  kind := by rw [Child.kind_created, Child.kind_prepare]; rfl
  role := by rw [Child.role?_created, Child.role?_prepare]
  claimed := List.cons_ne_nil _ _
  controllers o ho := by
    rw [Child.owners_created, Child.owners_prepare] at ho
    rw [List.mem_singleton.mp ho]
    exact controls
  distinct := by
    rw [Child.owners_created, Child.owners_prepare]
    exact List.pairwise_singleton _ _
  same uid := by rw [Child.owners_created, Child.owners_prepare]; rfl

theorem held_replaced (h : Held c.key claims live) (version : Nat) (role : c.role? = claims.role) :
    Held c.key { claims with owners := claims.owners ++ [owner] }
      (.replaced version live (c.prepare owner) owner) := by
  have owners := Child.owners_replaced version live (c.prepare owner) owner
  have others : ∀ uid, uid ∈ (live.owners.filter fun o => o.uid ≠ owner.uid).map OwnerReference.uid ↔
      uid ∈ claims.uids ∧ uid ≠ owner.uid := by
    intro uid
    rw [← h.same, List.mem_map, List.mem_map]
    constructor
    · rintro ⟨o, ho, rfl⟩
      have kept := List.mem_filter.mp ho
      exact ⟨⟨o, kept.1, rfl⟩, of_decide_eq_true kept.2⟩
    · rintro ⟨⟨o, ho, rfl⟩, other⟩
      exact ⟨o, List.mem_filter.mpr ⟨ho, decide_eq_true other⟩, rfl⟩
  refine ⟨?_, ?_, List.append_ne_nil_of_right_ne_nil _ (List.cons_ne_nil _ _), ?_, ?_, ?_⟩
  · rw [Child.kind_replaced, Child.kind_prepare]
    rfl
  · rw [Child.role?_replaced, Child.role?_prepare, role]
  · intro o ho
    rw [owners] at ho
    rcases List.mem_append.mp ho with kept | mine
    · exact h.controllers o (List.mem_filter.mp kept).1
    · rw [List.mem_singleton.mp mine]
      exact controls
  · rw [owners, List.map_append, List.nodup_append]
    refine ⟨?_, List.pairwise_singleton _ _, ?_⟩
    · exact h.distinct.sublist (List.filter_sublist.map _)
    · intro a ha b hb same
      rw [List.mem_singleton.mp hb] at same
      exact ((others a).mp ha).2 same
  · intro uid
    rw [owners, List.map_append, List.mem_append, others, Claims.uids, Claims.uids, List.map_append,
      List.mem_append]
    by_cases mine : uid = owner.uid <;> simp [mine]

theorem Became.agrees {stored : Child} {slot : Option Child} {version : Nat}
    (h : Became owner slot (c.prepare owner) version stored) (before : Agrees c.key claims slot) :
    Agrees c.key (if c.role? = claims.role then { claims with owners := claims.owners ++ [owner] }
      else { owners := [owner], role := c.role? }) (some stored) := by
  cases h with
  | kept present converged =>
    subst present
    have role := Child.role?_of_isConverged converged
    rw [Child.role?_prepare, before.role] at role
    rw [if_pos role.symm]
    exact held_kept before (Child.isConverged_iff.mp converged).1
  | created absent =>
    subst absent
    cases before
    split
    · rename_i none
      have made := held_created controls version c
      rw [none] at made
      exact made
    · exact held_created controls version c
  | @recreated live present _ changed =>
    subst present
    have kinds : live.kind = (c.prepare owner).kind := by
      rw [before.kind, Child.kind_prepare]
      rfl
    rw [Child.roleChanged_iff kinds, Child.role?_prepare, before.role] at changed
    rw [if_neg (Ne.symm changed)]
    exact held_created controls version c
  | @replaced live present _ kept =>
    subst present
    have kinds : live.kind = (c.prepare owner).kind := by
      rw [before.kind, Child.kind_prepare]
      rfl
    have role : c.role? = claims.role := by
      by_contra changed
      have other : live.role? ≠ (c.prepare owner).role? := by
        rw [Child.role?_prepare, before.role]
        exact Ne.symm changed
      rw [(Child.roleChanged_iff kinds).mpr other] at kept
      cases kept
    rw [if_pos role]
    exact held_replaced controls before version role

end Step

section Run

theorem agrees_next {key : ChildKey} {m : Memory} {claims : Claims} (r : Round)
    (succeeds : Succeeds r.owner r.set m) (before : Agrees key claims (m.object? key)) :
    Agrees key (claims.next key r) ((m.converge r.owner r.set).state.object? key) := by
  unfold Claims.next
  cases found : r.set.toList.find? fun c => c.key = key with
  | none =>
    have other : ∀ c ∈ r.set.toList, key ≠ c.key := by
      intro c hc same
      simpa [same] using List.find?_eq_none.mp found c hc
    rw [succeeds.others key other]
    exact before
  | some c =>
    have same : c.key = key := by simpa using List.find?_some found
    subst same
    obtain ⟨version, stored, present, became⟩ := succeeds.became c (List.mem_of_find?_eq_some found)
    rw [present]
    exact became.agrees (Parent.controller_of_owner? r.owned) before

theorem agrees_run (key : ChildKey) (rounds : List Round) :
    Agrees key (claims key rounds) ((Round.run Memory.empty rounds).object? key) := by
  induction rounds using List.reverseRecOn with
  | nil => exact rfl
  | append_singleton rounds r ih =>
    rw [Round.run_append, claims, List.foldl_append]
    exact agrees_next r (Round.succeeds_after rounds r) ih

end Run

theorem exists_held {key : ChildKey} {rounds : List Round} (claimed : (claims key rounds).owners ≠ []) :
    ∃ stored, (Round.run Memory.empty rounds).object? key = some stored ∧
      Held key (claims key rounds) stored := by
  have agrees := agrees_run key rounds
  cases slot : (Round.run Memory.empty rounds).object? key with
  | none =>
    rw [slot] at agrees
    have nothing : claims key rounds = { owners := [], role := none } := agrees
    exact absurd (by rw [nothing]) claimed
  | some stored =>
    rw [slot] at agrees
    exact ⟨stored, rfl, agrees⟩

theorem Held.controllers_eq {key : ChildKey} {claims : Claims} {live : Child}
    (h : Held key claims live) : live.controllers = live.owners := by
  rw [Child.controllers, List.filter_eq_self]
  intro o ho
  exact decide_eq_true (h.controllers o ho)

theorem Held.owners_ne_nil {key : ChildKey} {claims : Claims} {live : Child}
    (h : Held key claims live) : live.owners ≠ [] := by
  obtain ⟨first, rest, shape⟩ := List.exists_cons_of_ne_nil h.claimed
  have known : first.uid ∈ live.owners.map OwnerReference.uid := by
    rw [h.same, Claims.uids, shape]
    exact List.mem_cons_self
  intro none
  rw [none] at known
  cases known

/-- After any passes of any parents, what is stored has a controller, and it has exactly one when all who
claimed it since it was last made afresh have one uid, and only then. -/
theorem one_controller_iff (rounds : List Round) {key : ChildKey} {stored : Child}
    (present : (Round.run Memory.empty rounds).object? key = some stored) :
    stored.controllers ≠ [] ∧
      (stored.controllers.length = 1 ↔
        ∃ uid, ∀ owner ∈ (claims key rounds).owners, owner.uid = uid) := by
  have agrees := agrees_run key rounds
  rw [present] at agrees
  have held : Held key (claims key rounds) stored := agrees
  rw [held.controllers_eq]
  refine ⟨held.owners_ne_nil, ?_, ?_⟩
  · intro one
    obtain ⟨o, single⟩ := List.length_eq_one_iff.mp one
    refine ⟨o.uid, ?_⟩
    intro owner claimed
    have known := (held.same owner.uid).mpr (List.mem_map_of_mem claimed)
    rw [single] at known
    exact List.mem_singleton.mp known
  · rintro ⟨uid, all⟩
    have alike : ∀ o ∈ stored.owners, o.uid = uid := by
      intro o ho
      obtain ⟨owner, claimed, same⟩ := List.mem_map.mp ((held.same o.uid).mp (List.mem_map_of_mem ho))
      rw [← same]
      exact all owner claimed
    have distinct := held.distinct
    cases shape : stored.owners with
    | nil => exact absurd shape held.owners_ne_nil
    | cons first rest =>
      cases rest with
      | nil => rfl
      | cons second _ =>
        rw [shape] at alike distinct
        have same := (alike first (by simp)).trans (alike second (by simp)).symm
        simp [same] at distinct

theorem gateway_controls_its_deployment :
    ∃ stored, (Round.run Memory.empty [.ofGateway "lab" "1"]).object? ⟨.deployment, "team", "lab"⟩ =
      some stored ∧ stored.controllers.length = 1 := by
  have owners : (claims ⟨.deployment, "team", "lab"⟩ [.ofGateway "lab" "1"]).owners =
      [(Round.ofGateway "lab" "1").owner] := rfl
  obtain ⟨stored, present, _⟩ := exists_held (by rw [owners]; exact List.cons_ne_nil _ _)
  refine ⟨stored, present, (one_controller_iff _ present).2.mpr ⟨"1", ?_⟩⟩
  intro owner claimed
  rw [owners] at claimed
  rw [List.mem_singleton.mp claimed]
  rfl

/-- A gateway and a notebook of one name end up as the two controllers of one deployment. -/
theorem deployment_of_two_parents :
    ∃ stored, (Round.run Memory.empty [.ofGateway "lab" "1", .ofNotebook "lab" "2"]).object?
      ⟨.deployment, "team", "lab"⟩ = some stored ∧ stored.controllers.length = 2 := by
  have uids : (claims ⟨.deployment, "team", "lab"⟩
      [.ofGateway "lab" "1", .ofNotebook "lab" "2"]).uids = ["1", "2"] := rfl
  obtain ⟨stored, present, held⟩ := exists_held (by
    intro none
    rw [Claims.uids, none] at uids
    cases uids)
  have perm : (stored.owners.map OwnerReference.uid).Perm ["1", "2"] := by
    apply (List.perm_ext_iff_of_nodup held.distinct (by decide)).mpr
    intro uid
    rw [held.same, uids]
  refine ⟨stored, present, ?_⟩
  rw [held.controllers_eq, ← List.length_map, perm.length_eq]
  rfl

end Converge

end JupyterWorkloads
