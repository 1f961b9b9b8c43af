import JupyterWorkloads.Pod.Completion
import JupyterWorkloads.Proofs.Drift.Containment

/-! What completing a pod spec does. Eight fields have a default, three of them in each container. Completion
puts it in where the spec leaves the field open and touches nothing else, so that a completed spec contains the
one it was made from, is complete, and there is no complete spec between the two. -/
namespace JupyterWorkloads

open Drift

/-- How a field that has a default may change: the default, the field before and the field after. -/
abbrev FieldChange := ∀ ⦃α : Type⦄, α → Option α → Option α → Prop

namespace FieldChange

/-- What is set stays as it is. What is open may be set. -/
def Keeps : FieldChange := fun _ _ before after => ∀ v, before = some v → after = some v

/-- What is set stays as it is. What is open is set to the default. -/
def Fills : FieldChange := fun _ value before after =>
  Keeps value before after ∧ (before = none → after = some value)

variable {α : Type} {value : α} {before between after : Option α}

theorem fills_iff : Fills value before after ↔ before.or (some value) = after := by
  cases before <;> simp [Fills, Keeps, eq_comm]

theorem Fills.of_between (first : Keeps value before between) (second : Keeps value between after)
    (fills : Fills value before after) : Fills value between after := by
  refine ⟨second, fun opened => fills.2 ?_⟩
  cases before with
  | none => rfl
  | some v =>
    cases opened.symm.trans (first v rfl)

theorem Keeps.covers [Codec α] [PlainCodec α] (keeps : Keeps value before after) (name : String) :
    Covers (.optional name after) (.optional name before) := by
  cases before with
  | none => exact covers_unset name after
  | some v =>
    rw [keeps v rfl]
    exact covers_required name v

end FieldChange

open FieldChange

/-- Only the fields with a default change, each as `R` lets it. -/
inductive Container.Becomes (R : FieldChange) (c : Container) : Container → Prop where
  | mk {path policy pull : Option String} :
      R "/dev/termination-log" c.terminationMessagePath path →
      R "File" c.terminationMessagePolicy policy →
      R "IfNotPresent" c.imagePullPolicy pull →
      c.Becomes R { c with
        terminationMessagePath := path
        terminationMessagePolicy := policy
        imagePullPolicy := pull }

/-- Only the fields with a default change, each as `R` lets it, and so do the containers one by one. -/
inductive PodSpec.Becomes (R : FieldChange) (s : PodSpec) : PodSpec → Prop where
  | mk {containers : List Container} {restart dns scheduler : Option String} {grace : Option Int64}
      {security : Option PodSecurityContext} :
      List.Forall₂ (Container.Becomes R) s.containers containers →
      R "Always" s.restartPolicy restart →
      R 30 s.terminationGracePeriodSeconds grace →
      R "ClusterFirst" s.dnsPolicy dns →
      R { fsGroup := none, runAsNonRoot := none, runAsUser := none } s.securityContext security →
      R "default-scheduler" s.schedulerName scheduler →
      s.Becomes R { s with
        containers := containers
        restartPolicy := restart
        terminationGracePeriodSeconds := grace
        dnsPolicy := dns
        securityContext := security
        schedulerName := scheduler }

namespace Container

variable {c d e : Container}

theorem becomes_fills_iff : c.Becomes Fills d ↔ c.complete = d := by
  constructor
  · rintro ⟨path, policy, pull⟩
    rw [← fills_iff.mp path, ← fills_iff.mp policy, ← fills_iff.mp pull]
    rfl
  · rintro rfl
    exact ⟨fills_iff.mpr rfl, fills_iff.mpr rfl, fills_iff.mpr rfl⟩

theorem Becomes.of_between (first : c.Becomes Keeps d) (second : d.Becomes Keeps e)
    (fills : c.Becomes Fills e) : d.Becomes Fills e := by
  obtain ⟨path, policy, pull⟩ := first
  obtain ⟨path', policy', pull'⟩ := second
  cases fills with
  | mk filledPath filledPolicy filledPull =>
    exact ⟨filledPath.of_between path path', filledPolicy.of_between policy policy',
      filledPull.of_between pull pull'⟩

theorem Becomes.keeps (fills : c.Becomes Fills d) : c.Becomes Keeps d := by
  obtain ⟨path, policy, pull⟩ := fills
  exact ⟨path.1, policy.1, pull.1⟩

theorem Becomes.contains (h : c.Becomes Keeps d) : contains (encode d) (encode c) = true := by
  obtain ⟨path, policy, pull⟩ := h
  refine contains_record (Member.inOrder_of_names (by simp +decide)) ?_
  exact .cons (covers_optional _ _) (.cons (covers_optional _ _) (.cons (covers_optional _ _)
    (.cons (covers_optional _ _) (.cons (pull.covers _) (.cons (covers_required _ _)
    (.cons (covers_optional _ _) (.cons (covers_optional _ _) (.cons (path.covers _)
    (.cons (policy.covers _) (.cons (covers_optional _ _) (.cons (covers_optional _ _) .nil)))))))))))

theorem forall₂_of_between {cs ds es : List Container} (first : List.Forall₂ (Becomes Keeps) cs ds)
    (second : List.Forall₂ (Becomes Keeps) ds es) (fills : List.Forall₂ (Becomes Fills) cs es) :
    List.Forall₂ (Becomes Fills) ds es := by
  induction first generalizing es with
  | nil =>
    cases second
    exact .nil
  | cons keeps _ ih =>
    obtain _ | ⟨keeps', rest'⟩ := second
    obtain _ | ⟨filled, rest⟩ := fills
    exact .cons (keeps.of_between keeps' filled) (ih rest' rest)

theorem forall₂_fills_iff {cs ds : List Container} :
    List.Forall₂ (Becomes Fills) cs ds ↔ cs.map complete = ds := by
  have graph : Becomes Fills = fun c d => c.complete = d := by
    funext c d
    exact propext becomes_fills_iff
  rw [graph, ← List.forall₂_map_left_iff, List.forall₂_eq_eq_eq]

theorem containsItems_of_keeps {cs ds : List Container} (h : List.Forall₂ (Becomes Keeps) cs ds) :
    containsItems (ds.map encode) (cs.map encode) = true := by
  induction h with
  | nil => rfl
  | cons keeps _ ih =>
    rw [List.map_cons, List.map_cons, containsItems, keeps.contains, ih]
    rfl

end Container

namespace PodSpec

variable {s t u : PodSpec}

theorem becomes_fills_iff : s.Becomes Fills t ↔ s.complete = t := by
  constructor
  · rintro ⟨containers, restart, grace, dns, security, scheduler⟩
    rw [← Container.forall₂_fills_iff.mp containers, ← fills_iff.mp restart, ← fills_iff.mp grace,
      ← fills_iff.mp dns, ← fills_iff.mp security, ← fills_iff.mp scheduler]
    rfl
  · rintro rfl
    exact ⟨Container.forall₂_fills_iff.mpr rfl, fills_iff.mpr rfl, fills_iff.mpr rfl, fills_iff.mpr rfl,
      fills_iff.mpr rfl, fills_iff.mpr rfl⟩

theorem Becomes.of_between (first : s.Becomes Keeps u) (second : u.Becomes Keeps t)
    (fills : s.Becomes Fills t) : u.Becomes Fills t := by
  obtain ⟨containers, restart, grace, dns, security, scheduler⟩ := first
  obtain ⟨containers', restart', grace', dns', security', scheduler'⟩ := second
  cases fills with
  | mk filled filledRestart filledGrace filledDns filledSecurity filledScheduler =>
    exact ⟨Container.forall₂_of_between containers containers' filled,
      filledRestart.of_between restart restart', filledGrace.of_between grace grace',
      filledDns.of_between dns dns', filledSecurity.of_between security security',
      filledScheduler.of_between scheduler scheduler'⟩

theorem becomes_keeps_self (s : PodSpec) : s.Becomes Keeps s :=
  ⟨List.forall₂_same.mpr fun _ _ => ⟨fun _ h => h, fun _ h => h, fun _ h => h⟩,
    fun _ h => h, fun _ h => h, fun _ h => h, fun _ h => h, fun _ h => h⟩

theorem Becomes.keeps (fills : s.Becomes Fills t) : s.Becomes Keeps t := by
  obtain ⟨containers, restart, grace, dns, security, scheduler⟩ := fills
  exact ⟨containers.imp fun _ _ => Container.Becomes.keeps, restart.1, grace.1, dns.1, security.1,
    scheduler.1⟩

theorem Becomes.contains (h : s.Becomes Keeps t) : contains (encode t) (encode s) = true := by
  obtain ⟨containers, restart, grace, dns, security, scheduler⟩ := h
  refine contains_record (Member.inOrder_of_names (by simp +decide)) ?_
  exact .cons (covers_contained _ (Container.containsItems_of_keeps containers)) (.cons (dns.covers _)
    (.cons (covers_optional _ _) (.cons (covers_optional _ _) (.cons (covers_optional _ _)
    (.cons (covers_optional _ _) (.cons (restart.covers _) (.cons (scheduler.covers _)
    (.cons (security.covers _) (.cons (covers_optional _ _) (.cons (grace.covers _)
    (.cons (covers_optional _ _) .nil)))))))))))

/-- Completion puts the defaults exactly where they are missing. Of all specs from the given one up to its
completion this alone is complete, so a completed spec stays as it is. Written as JSON it contains the given
one. -/
theorem completion_is_least (s : PodSpec) :
    (∀ t, s.Becomes Fills t ↔ s.complete = t) ∧
    (∀ t, s.Becomes Keeps t ∧ t.Becomes Keeps s.complete ∧ t.complete = t ↔ s.complete = t) ∧
    s.complete.complete = s.complete ∧
    contains (encode s.complete) (encode s) = true := by
  have filled : s.Becomes Fills s.complete := becomes_fills_iff.mpr rfl
  have between {t : PodSpec} (first : s.Becomes Keeps t) (second : t.Becomes Keeps s.complete) :
      t.complete = s.complete := becomes_fills_iff.mp (first.of_between second filled)
  have again : s.complete.complete = s.complete := between filled.keeps (becomes_keeps_self _)
  refine ⟨fun t => becomes_fills_iff, ?_, again, filled.keeps.contains⟩
  intro t
  constructor
  · rintro ⟨first, second, whole⟩
    exact (between first second).symm.trans whole
  · rintro rfl
    exact ⟨filled.keeps, becomes_keeps_self _, again⟩

/-- A container keeps the policy that it sets, and the containers that run first stay as they are. -/
example :
    let s : PodSpec := { (default : PodSpec) with
      containers := [{ (default : Container) with imagePullPolicy := some "Always" }, default]
      initContainers := some [default] }
    s.complete.containers.map Container.imagePullPolicy = [some "Always", some "IfNotPresent"] ∧
      s.complete.initContainers = some [default] := ⟨rfl, rfl⟩

end PodSpec

end JupyterWorkloads
