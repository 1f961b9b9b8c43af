import JupyterWorkloads.Proofs.Converge.History
import JupyterWorkloads.Proofs.Json.Reading
import JupyterWorkloads.Proofs.Parent.Generation
import JupyterWorkloads.Reference.Catalog

/-! What a fingerprint can miss. The bytes that are hashed determine the value they were written from, so
two generated children with one fingerprint are the same child unless their bytes collide in the hash. -/
namespace JupyterWorkloads

namespace Fingerprint

theorem toList_inj {s t : ByteArray} (same : s.toList = t.toList) : s = t := by
  rw [ByteArray.toList, ByteArray.toList, toList_loop, toList_loop] at same
  simp only [List.reverse_nil, List.nil_append, List.drop_zero] at same
  exact ByteArray.ext (Array.toList_inj.mp same)

theorem eq_of_bytes {v w : Json} (hv : v.FloatFree) (hw : w.FloatFree) (same : bytes v = bytes w) :
    v = w := by
  have texts : v.text.toByteArray = w.text.toByteArray := toList_inj (List.append_cancel_right same)
  exact Json.eq_of_text hv hw (String.toByteArray_inj.mp texts)

section Words

def hexNumber (digits : List Char) : Nat :=
  digits.foldl (fun n c => 16 * n + (Json.hexValue? c).getD 0) 0

theorem hexNumber_digitChar : ∀ n < 16, (Json.hexValue? n.digitChar).getD 0 = n := by decide

theorem hexNumber_toDigits (n : Nat) : hexNumber (Nat.toDigits 16 n) = n := by
  induction n using Nat.strongRecOn with
  | ind n ih =>
    by_cases small : n < 16
    · rw [Nat.toDigits_of_lt_base small]
      simp [hexNumber, hexNumber_digitChar n small]
    · have front := ih (n / 16) (by omega)
      rw [Nat.toDigits_of_base_le (by omega) (by omega)]
      unfold hexNumber at front ⊢
      rw [List.foldl_append, front]
      simp only [List.foldl_cons, List.foldl_nil, hexNumber_digitChar (n % 16) (by omega)]
      omega

theorem hexNumber_zeros (count : Nat) (digits : List Char) :
    hexNumber (List.replicate count '0' ++ digits) = hexNumber digits := by
  induction count with
  | zero => rfl
  | succ count ih => rw [← ih]; rfl

theorem hexWord_inj {v w : UInt64} (same : hexWord v = hexWord w) : v = w := by
  have number : ∀ u : UInt64, hexNumber (hexWord u).toList = u.toNat := by
    intro u
    rw [hexWord, String.toList_ofList, hexNumber_zeros, hexNumber_toDigits]
  apply UInt64.toNat_inj.mp
  rw [← number v, same, number w]

end Words

/-- Two different streams of bytes with one hash. -/
def Collide (s t : List UInt8) : Prop := s ≠ t ∧ SipHash.hash s = SipHash.hash t

end Fingerprint

namespace Child

open Fingerprint

def hashedBytes (c : Child) (owner : OwnerReference) : List UInt8 := bytes (c.withOwner owner).toJson

variable {a b : Child} {owner : OwnerReference}

theorem disown_withOwner (c : Child) (owner : OwnerReference) :
    (c.withOwner owner).mapMetadata
      (fun m => { m with ownerReferences := c.metadata.ownerReferences }) = c := by
  cases c <;> rfl

theorem eq_of_withOwner (owners : a.metadata.ownerReferences = b.metadata.ownerReferences)
    (same : a.withOwner owner = b.withOwner owner) : a = b := by
  rw [← disown_withOwner a owner, owners, same, disown_withOwner b owner]

theorem hashedBytes_ne (owner : OwnerReference) (kinds : a.kind = b.kind)
    (owners : a.metadata.ownerReferences = b.metadata.ownerReferences) (differ : a ≠ b) :
    a.hashedBytes owner ≠ b.hashedBytes owner := by
  intro same
  apply differ
  have written := eq_of_bytes (plain_toJson _).floatFree (plain_toJson _).floatFree same
  refine eq_of_withOwner owners (eq_of_toJson ?_ written)
  rw [withOwner, withOwner, kind_mapMetadata, kind_mapMetadata, kinds]

theorem hash_eq_of_fingerprint (same : a.fingerprint owner = b.fingerprint owner) :
    SipHash.hash (a.hashedBytes owner) = SipHash.hash (b.hashedBytes owner) := hexWord_inj same

theorem recordedHash?_of_converged {live desired : Child}
    (converged : live.isConverged desired owner = true) : live.recordedHash? = desired.recordedHash? := by
  simp only [isConverged, Bool.and_eq_true, beq_iff_eq] at converged
  exact converged.1.2

end Child

open Fingerprint Generating in
theorem missed_changes_collide :
    (∀ v w : Json, v.FloatFree → w.FloatFree → v ≠ w → bytes v ≠ bytes w) ∧
    ∀ (p q : Parent) (d e : Defaults) (resolver other : Resolver) (set next : ChildSet),
      (resolve resolver (p.generate d)).value = .ok set →
      (resolve other (q.generate e)).value = .ok next →
      ∀ a ∈ set.toList, ∀ b ∈ next.toList, a.kind = b.kind → a ≠ b → ∀ owner : OwnerReference,
        a.hashedBytes owner ≠ b.hashedBytes owner ∧
        ∀ live : Child, live.recordedHash? = (a.prepare owner).recordedHash? →
          live.isConverged (b.prepare owner) owner = true →
            Collide (a.hashedBytes owner) (b.hashedBytes owner) := by
  refine ⟨fun v w hv hw differ same => differ (eq_of_bytes hv hw same), ?_⟩
  intro p q d e resolver other set next given given' a ha b hb kinds differ owner
  have unowned : a.metadata.ownerReferences = b.metadata.ownerReferences := by
    rw [(Parent.generatedFor given).metadata a ha, (Parent.generatedFor given').metadata b hb]
    rfl
  have bytes := Child.hashedBytes_ne owner kinds unowned differ
  refine ⟨bytes, fun live recorded converged => ⟨bytes, Child.hash_eq_of_fingerprint ?_⟩⟩
  have same := Child.recordedHash?_of_converged converged
  rw [recorded, Child.recordedHash?_prepare, Child.recordedHash?_prepare] at same
  exact Option.some.inj same

/-- The limit of a gateway that is no longer set was hashed: the fingerprint tells the two deployments
apart unless their bytes collide. -/
theorem removed_limit_is_hashed :
    let limited : Gateway := { Gateway.plain "jupyter" "gw" "1" with
      spec := { (default : Gateway.Spec) with
        resources := some { limits := some (Table.ofList [("cpu", "2")]), requests := none } } }
    let bare := Gateway.plain "jupyter" "gw" "1"
    let deployment (g : Gateway) : Child :=
      .deployment (.ofTemplate g.childMetadata g.selector (g.podTemplate default))
    (deployment limited).hashedBytes default ≠ (deployment bare).hashedBytes default := by
  intro limited bare deployment
  have unset : deployment limited ≠ deployment bare := by decide +kernel
  have generated := Gateway.resolve_generate (g := limited) rfl default (Catalog.resolver [])
  have generated' := Gateway.resolve_generate (g := bare) rfl default (Catalog.resolver [])
  exact (missed_changes_collide.2 (.gateway limited) (.gateway bare) default default _ _ _ _
    generated generated' (deployment limited) (by simp [Gateway.toList_children, deployment])
    (deployment bare) (by simp [Gateway.toList_children, deployment]) rfl unset default).1

end JupyterWorkloads
