import JupyterWorkloads.Child.Basic
import JupyterWorkloads.Proofs.Json.Record
import JupyterWorkloads.Proofs.Table.Content

/-! Everything that children are made of is written with its keys in order and read back as it was.
So two children of one kind that are written alike are the same child. -/
namespace JupyterWorkloads

class PlainCodec (α : Type) [Codec α] : Prop where
  plain : ∀ a : α, (encode a).Plain

namespace Member

variable {α : Type} [Codec α] [PlainCodec α]

@[simp] theorem plain_optional (name : String) (value : Option α) :
    (optional name value).Plain := by
  intro v hv
  obtain ⟨a, _, rfl⟩ := Option.map_eq_some_iff.mp hv
  exact PlainCodec.plain a

@[simp] theorem plain_required (name : String) (value : α) : (required name value).Plain :=
  plain_optional name (some value)

@[simp] theorem plain_omitted (name : String) (value : α) (omitted : Prop) [Decidable omitted] :
    (⟨name, if omitted then none else some (encode value)⟩ : Member).Plain := by
  intro v hv
  obtain ⟨_, hv⟩ := Option.ite_none_left_eq_some.mp hv
  cases hv
  exact PlainCodec.plain value

end Member

section Leaves

instance : LawfulCodec String := ⟨fun _ => rfl, nofun⟩

instance : PlainCodec String := ⟨fun _ => trivial⟩

instance : LawfulCodec Bool := ⟨fun _ => rfl, nofun⟩

instance : PlainCodec Bool := ⟨fun _ => trivial⟩

instance : LawfulCodec Int32 where
  decode_encode n := by
    have low := Int32.le_toInt n
    have high := Int32.toInt_lt n
    simp only [encode, decode, Int32.toInt_minValue, Int32.toInt_maxValue]
    rw [if_pos ⟨by omega, by omega⟩, Int32.ofInt_toInt]
  encode_ne_null := nofun

instance : PlainCodec Int32 where
  plain n := by
    have low := Int32.le_toInt n
    have high := Int32.toInt_lt n
    constructor <;> omega

instance : LawfulCodec Int64 where
  decode_encode n := by
    have low := Int64.le_toInt n
    have high := Int64.toInt_lt n
    simp only [encode, decode, Int64.toInt_minValue, Int64.toInt_maxValue]
    rw [if_pos ⟨by omega, by omega⟩, Int64.ofInt_toInt]
  encode_ne_null := nofun

instance : PlainCodec Int64 where
  plain n := by
    have low := Int64.le_toInt n
    have high := Int64.toInt_lt n
    constructor <;> omega

theorem mapM_decode_encode {α : Type} [Codec α] [LawfulCodec α] (items : List α) :
    (items.map encode).mapM decode = some items := by
  induction items with
  | nil => rfl
  | cons item rest ih => simp [LawfulCodec.decode_encode, ih]

instance {α : Type} [Codec α] [LawfulCodec α] : LawfulCodec (List α) where
  decode_encode := mapM_decode_encode
  encode_ne_null := nofun

instance {α : Type} [Codec α] [PlainCodec α] : PlainCodec (List α) where
  plain items := by
    refine Json.writtenItems_of_forall fun item hi => ?_
    obtain ⟨a, _, rfl⟩ := List.mem_map.mp hi
    exact PlainCodec.plain a

theorem mapM_textRows (rows : List (String × String)) :
    (rows.map fun row => (row.1, Json.str row.2)).mapM
      (fun field : String × Json => field.2.str?.map (field.1, ·)) = some rows := by
  induction rows with
  | nil => rfl
  | cons row rest ih =>
    rw [List.map_cons, List.mapM_cons, ih]
    rfl

theorem get?_textRows (key : String) (rows : List (String × String)) :
    Rows.get? key (rows.map fun row => (row.1, Json.str row.2)) = (Rows.get? key rows).map .str := by
  induction rows with
  | nil => rfl
  | cons row rest ih =>
    rw [List.map_cons, Rows.get?_cons, Rows.get?_cons, ih]
    split <;> rfl

instance : LawfulCodec StringTable where
  decode_encode t := by
    simp only [encode, decode, mapM_textRows]
    exact congrArg some (Table.ofList_rows t)
  encode_ne_null := nofun

instance : PlainCodec StringTable where
  plain t := by
    refine ⟨List.pairwise_map.mpr t.increasing, Json.writtenFields_of_forall fun row hr => ?_⟩
    obtain ⟨_, _, rfl⟩ := List.mem_map.mp hr
    trivial

instance : LawfulCodec CountOrText where
  decode_encode a := by
    cases a with
    | count n =>
      show Option.map CountOrText.count (decode (encode n)) = some (.count n)
      rw [LawfulCodec.decode_encode]
      rfl
    | text s => rfl
  encode_ne_null a := by cases a <;> nofun

instance : PlainCodec CountOrText where
  plain a := by
    cases a with
    | count n => exact PlainCodec.plain n
    | text s => trivial

end Leaves

section Records

instance : LawfulCodec OwnerReference where
  decode_encode x := by simp [encode, decode]
  encode_ne_null _ := Json.record_ne_null _

instance : PlainCodec OwnerReference where
  plain _ := Json.plain_record (Member.inOrder_of_names (by simp +decide)) (by simp)

instance : LawfulCodec ObjectMeta where
  decode_encode x := by simp [encode, decode]
  encode_ne_null _ := Json.record_ne_null _

instance : PlainCodec ObjectMeta where
  plain _ := Json.plain_record (Member.inOrder_of_names (by simp +decide)) (by simp)

instance : LawfulCodec FieldSelector where
  decode_encode x := by simp [encode, decode]
  encode_ne_null _ := Json.record_ne_null _

instance : PlainCodec FieldSelector where
  plain _ := Json.plain_record (Member.inOrder_of_names (by simp +decide)) (by simp)

instance : LawfulCodec SecretKeySelector where
  decode_encode x := by simp [encode, decode]
  encode_ne_null _ := Json.record_ne_null _

instance : PlainCodec SecretKeySelector where
  plain _ := Json.plain_record (Member.inOrder_of_names (by simp +decide)) (by simp)

instance : LawfulCodec EnvVarSource where
  decode_encode x := by simp [encode, decode]
  encode_ne_null _ := Json.record_ne_null _

instance : PlainCodec EnvVarSource where
  plain _ := Json.plain_record (Member.inOrder_of_names (by simp +decide)) (by simp)

instance : LawfulCodec EnvVar where
  decode_encode x := by simp [encode, decode]
  encode_ne_null _ := Json.record_ne_null _

instance : PlainCodec EnvVar where
  plain _ := Json.plain_record (Member.inOrder_of_names (by simp +decide)) (by simp)

instance : LawfulCodec ContainerPort where
  decode_encode x := by simp [encode, decode]
  encode_ne_null _ := Json.record_ne_null _

instance : PlainCodec ContainerPort where
  plain _ := Json.plain_record (Member.inOrder_of_names (by simp +decide)) (by simp)

instance : LawfulCodec VolumeMount where
  decode_encode x := by simp [encode, decode]
  encode_ne_null _ := Json.record_ne_null _

instance : PlainCodec VolumeMount where
  plain _ := Json.plain_record (Member.inOrder_of_names (by simp +decide)) (by simp)

instance : LawfulCodec ResourceRequirements where
  decode_encode x := by simp [encode, decode]
  encode_ne_null _ := Json.record_ne_null _

instance : PlainCodec ResourceRequirements where
  plain _ := Json.plain_record (Member.inOrder_of_names (by simp +decide)) (by simp)

instance : LawfulCodec Container where
  decode_encode x := by simp [encode, decode]
  encode_ne_null _ := Json.record_ne_null _

instance : PlainCodec Container where
  plain _ := Json.plain_record (Member.inOrder_of_names (by simp +decide)) (by simp)

instance : LawfulCodec ConfigMapVolume where
  decode_encode x := by simp [encode, decode]
  encode_ne_null _ := Json.record_ne_null _

instance : PlainCodec ConfigMapVolume where
  plain _ := Json.plain_record (Member.inOrder_of_names (by simp +decide)) (by simp)

instance : LawfulCodec EmptyDirVolume where
  decode_encode x := by simp [encode, decode]
  encode_ne_null _ := Json.record_ne_null _

instance : PlainCodec EmptyDirVolume where
  plain _ := Json.plain_record (Member.inOrder_of_names (by simp +decide)) (by simp)

instance : LawfulCodec Volume where
  decode_encode x := by simp [encode, decode]
  encode_ne_null _ := Json.record_ne_null _

instance : PlainCodec Volume where
  plain _ := Json.plain_record (Member.inOrder_of_names (by simp +decide)) (by simp)

instance : LawfulCodec PodSecurityContext where
  decode_encode x := by simp [encode, decode]
  encode_ne_null _ := Json.record_ne_null _

instance : PlainCodec PodSecurityContext where
  plain _ := Json.plain_record (Member.inOrder_of_names (by simp +decide)) (by simp)

instance : LawfulCodec PodSpec where
  decode_encode x := by simp [encode, decode]
  encode_ne_null _ := Json.record_ne_null _

instance : PlainCodec PodSpec where
  plain _ := Json.plain_record (Member.inOrder_of_names (by simp +decide)) (by simp)

instance : LawfulCodec PodTemplate where
  decode_encode x := by simp [encode, decode]
  encode_ne_null _ := Json.record_ne_null _

instance : PlainCodec PodTemplate where
  plain _ := Json.plain_record (Member.inOrder_of_names (by simp +decide)) (by simp)

instance : LawfulCodec LabelSelector where
  decode_encode x := by simp [encode, decode]
  encode_ne_null _ := Json.record_ne_null _

instance : PlainCodec LabelSelector where
  plain _ := Json.plain_record (Member.inOrder_of_names (by simp +decide)) (by simp)

instance : LawfulCodec RollingUpdate where
  decode_encode x := by simp [encode, decode]
  encode_ne_null _ := Json.record_ne_null _

instance : PlainCodec RollingUpdate where
  plain _ := Json.plain_record (Member.inOrder_of_names (by simp +decide)) (by simp)

instance : LawfulCodec DeploymentStrategy where
  decode_encode x := by simp [encode, decode]
  encode_ne_null _ := Json.record_ne_null _

instance : PlainCodec DeploymentStrategy where
  plain _ := Json.plain_record (Member.inOrder_of_names (by simp +decide)) (by simp)

instance : LawfulCodec DeploymentSpec where
  decode_encode x := by simp [encode, decode]
  encode_ne_null _ := Json.record_ne_null _

instance : PlainCodec DeploymentSpec where
  plain _ := Json.plain_record (Member.inOrder_of_names (by simp +decide)) (by simp)

instance : LawfulCodec DeploymentStatus where
  decode_encode x := by simp [encode, decode]
  encode_ne_null _ := Json.record_ne_null _

instance : PlainCodec DeploymentStatus where
  plain _ := Json.plain_record (Member.inOrder_of_names (by simp +decide)) (by simp)

instance : LawfulCodec Deployment where
  decode_encode x := by simp [encode, decode]
  encode_ne_null _ := Json.record_ne_null _

instance : PlainCodec Deployment where
  plain _ := Json.plain_record (Member.inOrder_of_names (by simp +decide)) (by simp)

instance : LawfulCodec ServicePort where
  decode_encode x := by simp [encode, decode]
  encode_ne_null _ := Json.record_ne_null _

instance : PlainCodec ServicePort where
  plain _ := Json.plain_record (Member.inOrder_of_names (by simp +decide)) (by simp)

instance : LawfulCodec ServiceSpec where
  decode_encode x := by simp [encode, decode]
  encode_ne_null _ := Json.record_ne_null _

instance : PlainCodec ServiceSpec where
  plain _ := Json.plain_record (Member.inOrder_of_names (by simp +decide)) (by simp)

instance : LawfulCodec Service where
  decode_encode x := by simp [encode, decode]
  encode_ne_null _ := Json.record_ne_null _

instance : PlainCodec Service where
  plain _ := Json.plain_record (Member.inOrder_of_names (by simp +decide)) (by simp)

instance : LawfulCodec ServiceAccount where
  decode_encode x := by simp [encode, decode]
  encode_ne_null _ := Json.record_ne_null _

instance : PlainCodec ServiceAccount where
  plain _ := Json.plain_record (Member.inOrder_of_names (by simp +decide)) (by simp)

instance : LawfulCodec RoleRef where
  decode_encode x := by simp [encode, decode]
  encode_ne_null _ := Json.record_ne_null _

instance : PlainCodec RoleRef where
  plain _ := Json.plain_record (Member.inOrder_of_names (by simp +decide)) (by simp)

instance : LawfulCodec Subject where
  decode_encode x := by simp [encode, decode]
  encode_ne_null _ := Json.record_ne_null _

instance : PlainCodec Subject where
  plain _ := Json.plain_record (Member.inOrder_of_names (by simp +decide)) (by simp)

instance : LawfulCodec RoleBinding where
  decode_encode x := by simp [encode, decode]
  encode_ne_null _ := Json.record_ne_null _

instance : PlainCodec RoleBinding where
  plain _ := Json.plain_record (Member.inOrder_of_names (by simp +decide)) (by simp)

instance : LawfulCodec ConfigMap where
  decode_encode x := by simp [encode, decode]
  encode_ne_null _ := Json.record_ne_null _

instance : PlainCodec ConfigMap where
  plain _ := Json.plain_record (Member.inOrder_of_names (by simp +decide)) (by simp)

end Records

namespace Child

theorem ofJson?_toJson (c : Child) : ofJson? c.kind c.toJson = some c := by
  cases c <;> simp [kind, toJson, ofJson?, LawfulCodec.decode_encode]

theorem plain_toJson (c : Child) : c.toJson.Plain := by
  cases c <;> exact PlainCodec.plain _

theorem eq_of_toJson {a b : Child} (kinds : a.kind = b.kind) (same : a.toJson = b.toJson) : a = b := by
  have back := ofJson?_toJson a
  rw [kinds, same, ofJson?_toJson] at back
  exact (Option.some.inj back).symm

end Child

end JupyterWorkloads
