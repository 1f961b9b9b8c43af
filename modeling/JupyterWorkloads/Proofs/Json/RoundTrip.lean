import JupyterWorkloads.Api.Message
import JupyterWorkloads.Gateway
import JupyterWorkloads.Kernel
import JupyterWorkloads.KernelSpec
import JupyterWorkloads.KernelTemplate
import JupyterWorkloads.Notebook
import JupyterWorkloads.Proofs.Json.Lawful
import JupyterWorkloads.Proofs.Json.Reading

/-! The whole format is read back as it was written: parents, their statuses and their children. So what
was read once, whatever its form, is written in one form that stays as it is. -/
namespace JupyterWorkloads

section Records

instance : LawfulCodec ObjectReference where
  decode_encode x := by simp [encode, decode]
  encode_ne_null _ := Json.record_ne_null _

instance : PlainCodec ObjectReference where
  plain _ := Json.plain_record (Member.inOrder_of_names (by simp +decide)) (by simp)

instance : LawfulCodec AuthMode where
  decode_encode m := by cases m <;> rfl
  encode_ne_null := nofun

instance : PlainCodec AuthMode := ⟨fun _ => trivial⟩

theorem defaulted?_text {name s : String} {rest : List Member}
    (once : Record.occurrences (Member.rows rest) name = []) :
    Record.defaulted? (Member.rows (⟨name, if s = "" then none else some (.str s)⟩ :: rest)) name =
      some s :=
  Record.defaulted?_rows id once

instance : LawfulCodec WorkloadStatus where
  decode_encode x := by simp +decide [encode, decode, defaulted?_text]
  encode_ne_null _ := Json.record_ne_null _

instance : PlainCodec WorkloadStatus where
  plain _ := Json.plain_record (Member.inOrder_of_names (by simp +decide)) (by simp)

instance : LawfulCodec Gateway.Spec where
  decode_encode x := by simp +decide [encode, decode]
  encode_ne_null _ := Json.record_ne_null _

instance : PlainCodec Gateway.Spec where
  plain _ := Json.plain_record (Member.inOrder_of_names (by simp +decide)) (by simp)

instance : LawfulCodec Gateway where
  decode_encode x := by simp +decide [encode, decode]
  encode_ne_null _ := Json.record_ne_null _

instance : PlainCodec Gateway where
  plain _ := Json.plain_record (Member.inOrder_of_names (by simp +decide)) (by simp)

instance : LawfulCodec Kernel.TemplateRef where
  decode_encode x := by simp +decide [encode, decode]
  encode_ne_null _ := Json.record_ne_null _

instance : PlainCodec Kernel.TemplateRef where
  plain _ := Json.plain_record (Member.inOrder_of_names (by simp +decide)) (by simp)

instance : LawfulCodec Kernel.Spec where
  decode_encode x := by simp +decide [encode, decode]
  encode_ne_null _ := Json.record_ne_null _

instance : PlainCodec Kernel.Spec where
  plain _ := Json.plain_record (Member.inOrder_of_names (by simp +decide)) (by simp)

instance : LawfulCodec Kernel where
  decode_encode x := by simp +decide [encode, decode]
  encode_ne_null _ := Json.record_ne_null _

instance : PlainCodec Kernel where
  plain _ := Json.plain_record (Member.inOrder_of_names (by simp +decide)) (by simp)

instance : LawfulCodec KernelSpec.Spec where
  decode_encode x := by simp +decide [encode, decode]
  encode_ne_null _ := Json.record_ne_null _

instance : PlainCodec KernelSpec.Spec where
  plain _ := Json.plain_record (Member.inOrder_of_names (by simp +decide)) (by simp)

instance : LawfulCodec KernelSpec where
  decode_encode x := by simp +decide [encode, decode]
  encode_ne_null _ := Json.record_ne_null _

instance : PlainCodec KernelSpec where
  plain _ := Json.plain_record (Member.inOrder_of_names (by simp +decide)) (by simp)

instance : LawfulCodec KernelTemplate.Spec where
  decode_encode x := by simp +decide [encode, decode]
  encode_ne_null _ := Json.record_ne_null _

instance : PlainCodec KernelTemplate.Spec where
  plain _ := Json.plain_record (Member.inOrder_of_names (by simp +decide)) (by simp)

instance : LawfulCodec KernelTemplate where
  decode_encode x := by simp +decide [encode, decode]
  encode_ne_null _ := Json.record_ne_null _

instance : PlainCodec KernelTemplate where
  plain _ := Json.plain_record (Member.inOrder_of_names (by simp +decide)) (by simp)

instance : LawfulCodec Notebook.Auth where
  decode_encode x := by simp +decide [encode, decode]
  encode_ne_null _ := Json.record_ne_null _

instance : PlainCodec Notebook.Auth where
  plain _ := Json.plain_record (Member.inOrder_of_names (by simp +decide)) (by simp)

instance : LawfulCodec Notebook.Spec where
  decode_encode x := by simp +decide [encode, decode]
  encode_ne_null _ := Json.record_ne_null _

instance : PlainCodec Notebook.Spec where
  plain _ := Json.plain_record (Member.inOrder_of_names (by simp +decide)) (by simp)

instance : LawfulCodec Notebook where
  decode_encode x := by simp +decide [encode, decode]
  encode_ne_null _ := Json.record_ne_null _

instance : PlainCodec Notebook where
  plain _ := Json.plain_record (Member.inOrder_of_names (by simp +decide)) (by simp)

end Records

section Texts

open Api

def rewritten (α : Type) [Codec α] (input : Body) : Option String :=
  (input.read? (decode (α := α))).map fun a => (encode a).text

/-- Every value of a type comes back from what is written of it: from the written value, from its text
read as a record, and from its text read as a whole. What is written of an input that is read comes back
as what was read, and is written again in the same way. -/
structure RoundTrips (α : Type) [Codec α] : Prop where
  value : ∀ a : α, decode (encode a) = some a
  record : ∀ a : α, (Body.text (encode a).text).read? decode = some a
  whole : ∀ a : α, (Json.ofText? (encode a).text).bind decode = some a
  again : ∀ (input : Body) (a : α) (written : String), input.read? decode = some a →
    rewritten α input = some written →
      (Body.text written).read? decode = some a ∧ rewritten α (.text written) = some written

theorem roundTrips (α : Type) [Codec α] [LawfulCodec α] [PlainCodec α] : RoundTrips α := by
  have value (a : α) : decode (encode a) = some a := LawfulCodec.decode_encode a
  have record (a : α) : (Body.text (encode a).text).read? decode = some a := by
    rw [Body.read?, Json.document?_text (PlainCodec.plain a), Option.bind_some, value]
  constructor
  · exact value
  · exact record
  · intro a
    rw [Json.ofText?_text (PlainCodec.plain a), Option.bind_some, value]
  · intro input a written read once
    rw [rewritten, read, Option.map_some, Option.some.injEq] at once
    subst once
    refine ⟨record a, ?_⟩
    rw [rewritten, record a, Option.map_some]

theorem format_round_trips :
    RoundTrips Gateway ∧ RoundTrips KernelSpec ∧ RoundTrips KernelTemplate ∧ RoundTrips Kernel ∧
    RoundTrips Notebook ∧ RoundTrips WorkloadStatus ∧ RoundTrips Notebook.Auth ∧
    RoundTrips ServiceAccount ∧ RoundTrips RoleBinding ∧ RoundTrips ConfigMap ∧ RoundTrips Deployment ∧
    RoundTrips Service ∧
    ∀ c : Child, Child.ofJson? c.kind c.toJson = some c ∧
      (Body.text c.toJson.text).read? (Child.ofJson? c.kind) = some c := by
  refine ⟨roundTrips _, roundTrips _, roundTrips _, roundTrips _, roundTrips _, roundTrips _,
    roundTrips _, roundTrips _, roundTrips _, roundTrips _, roundTrips _, roundTrips _, ?_⟩
  intro c
  constructor
  · exact c.ofJson?_toJson
  · rw [Body.read?, Json.document?_text c.plain_toJson, Option.bind_some, c.ofJson?_toJson]

theorem status_is_written_without_empty_message :
    let input := Body.text "\x7b\"message\":\"\",\"phase\":null,\"replicas\":1\x7d"
    let written := "\x7b\"replicas\":1\x7d"
    rewritten WorkloadStatus input = some written ∧
      (Body.text written).read? decode = some { (default : WorkloadStatus) with replicas := some 1 } ∧
      rewritten WorkloadStatus (.text written) = some written := by
  intro input written
  have read : input.read? decode = some { (default : WorkloadStatus) with replicas := some 1 } := by
    decide +kernel
  have once : rewritten WorkloadStatus input = some written := by decide +kernel
  have status : RoundTrips WorkloadStatus := format_round_trips.2.2.2.2.2.1
  exact ⟨once, status.again input _ written read once⟩

end Texts

end JupyterWorkloads
