import JupyterWorkloads.KernelSpec.Children
import JupyterWorkloads.Proofs.Json.Lawful
import JupyterWorkloads.Proofs.Json.Reading
import JupyterWorkloads.Proofs.Parent.Wiring

/-! What a gateway reads in a launch document. The text is read as an object with the members of the kernel
spec that are not empty, and the image and the process proxy. A variable has the last literal value of its
name, so the order in which distinct names are listed does not show in the text. -/
namespace JupyterWorkloads

def EnvVar.lastValue? (name : String) (env : List EnvVar) : Option String :=
  ((named name env).filterMap EnvVar.value).getLast?

namespace KernelSpec

open EnvVar

/-- The member has the form of what is given, and is absent when there is nothing or it is empty. -/
def HasUnlessEmpty {α : Type} (v : Json) (name : String) (form : α → Json) (empty : α)
    (given : Option α) : Prop :=
  ∀ value, v.get? name = some value ↔ ∃ a, given = some a ∧ a ≠ empty ∧ value = form a

inductive RunsImage (k : KernelSpec) (d : Defaults) : String → Prop where
  | own {image : String} : k.spec.image = some image → image ≠ "" → RunsImage k d image
  | fallback : k.spec.image = none ∨ k.spec.image = some "" → RunsImage k d d.kernelImage

/-- The value is the launch document of the kernel spec. -/
structure Describes (k : KernelSpec) (d : Defaults) (v : Json) : Prop where
  object : ∃ fields, v = .obj fields ∧ Rows.Increasing fields ∧
    ∀ field ∈ fields, field.1 ∈ ["language", "display_name", "metadata", "argv", "env"]
  language : HasUnlessEmpty v "language" .str "" k.spec.language
  displayName : HasUnlessEmpty v "display_name" .str "" k.spec.displayName
  argv : HasUnlessEmpty v "argv" (fun command => .arr (command.map .str)) [] k.spec.command
  noEnv : v.get? "env" = none ↔ ∀ var ∈ k.spec.env.getD [], var.value = none
  env : ∀ value, v.get? "env" = some value → ∃ fields, value = .obj fields ∧ Rows.Increasing fields ∧
    ∀ name, value.get? name = (lastValue? name (k.spec.env.getD [])).map .str
  metadata : ∃ image, RunsImage k d image ∧ v.get? "metadata" = some (.obj [
    ("config", .obj [("image_name", .str image)]),
    ("process_proxy", .obj [("class_name",
      .str "enterprise_gateway.services.processproxies.k8s.KubernetesProcessProxy")])])

section Literals

variable {env others : List EnvVar}

theorem get?_literals (env : List EnvVar) (name : String) :
    (literals env).get? name = lastValue? name env := by
  rw [literals, Table.get?_ofList, Rows.last?, lastValue?]
  congr 1
  induction env with
  | nil => rfl
  | cons var rest ih =>
    by_cases hit : var.name = name <;> cases value : var.value <;> simpa [named, value, hit] using ih

theorem literals_empty_iff : (literals env).rows = [] ↔ ∀ var ∈ env, var.value = none := by
  constructor
  · intro empty var listed
    have absent := get?_literals env var.name
    rw [Table.get?, empty] at absent
    have none := List.filterMap_eq_nil_iff.mp (List.getLast?_eq_none_iff.mp absent.symm)
    exact none var (List.mem_filter.mpr ⟨listed, by simp⟩)
  · intro unset
    have none : env.filterMap (fun var => var.value.map (var.name, ·)) = [] :=
      List.filterMap_eq_nil_iff.mpr fun var listed => by rw [unset var listed]; rfl
    rw [literals, none]
    rfl

theorem named_eq_of_perm (distinct : (env.map EnvVar.name).Nodup) (perm : env.Perm others) (name : String) :
    named name env = named name others := by
  by_cases listed : ∃ var ∈ env, var.name = name
  · obtain ⟨var, listed, rfl⟩ := listed
    have distinct' := (perm.map EnvVar.name).nodup_iff.mp distinct
    rw [named_of_nodup distinct listed, named_of_nodup distinct' (perm.mem_iff.mp listed)]
  · have none : named name env = [] :=
      List.filter_eq_nil_iff.mpr fun var hv => by simpa using fun same => listed ⟨var, hv, same⟩
    have none' : (named name others).Perm [] := none ▸ (perm.filter _).symm
    rw [none, none'.eq_nil]

theorem literals_eq_of_perm (distinct : (env.map EnvVar.name).Nodup) (perm : env.Perm others) :
    literals env = literals others := by
  apply Table.ext_get?
  intro name
  rw [get?_literals, get?_literals, lastValue?, lastValue?, named_eq_of_perm distinct perm]

end Literals

section Received

theorem hasUnlessEmpty_filter {α : Type} {v : Json} {name : String} {form : α → Json} {empty : α}
    {given : Option α} {full : α → Bool} (tells : ∀ a, full a = true ↔ a ≠ empty)
    (read : v.get? name = (given.filter full).map form) : HasUnlessEmpty v name form empty given := by
  intro value
  rw [read]
  constructor
  · intro found
    obtain ⟨a, filtered, rfl⟩ := Option.map_eq_some_iff.mp found
    obtain ⟨own, filled⟩ := Option.filter_eq_some_iff.mp filtered
    exact ⟨a, own, (tells a).mp filled, rfl⟩
  · rintro ⟨a, own, filled, rfl⟩
    exact Option.map_eq_some_iff.mpr ⟨a, Option.filter_eq_some_iff.mpr ⟨own, (tells a).mpr filled⟩, rfl⟩

theorem image_metadata (proxy image : String) : Json.Style.whole.image (.obj [
    ("process_proxy", .obj [("class_name", .str proxy)]), ("config", .obj [("image_name", .str image)])]) =
    .obj [("config", .obj [("image_name", .str image)]),
      ("process_proxy", .obj [("class_name", .str proxy)])] := by
  have single (name text : String) :
      Json.Style.whole.image (.obj [(name, .str text)]) = .obj [(name, .str text)] :=
    Json.image_of_plain ⟨List.pairwise_singleton .., trivial, trivial⟩
  have order : ¬ "process_proxy" < "config" := by decide
  rw [Json.image_obj, Table.ofList, Table.rows_insertAll]
  have start : (∅ : Table String Json).rows = [] := rfl
  simp [start, Rows.insert, single, order]

variable (k : KernelSpec) (d : Defaults)

def received : Json := Json.Style.whole.image (k.document d)

theorem written_document : Json.Written Json.IsWord (fun _ => True) (k.document d) := by
  refine ⟨trivial, Json.writtenFields_of_forall fun row listed => ?_⟩
  obtain ⟨m, listed, _, value⟩ := Member.mem_rows listed
  have ordered {m : Member} (plain : m.Plain) {v : Json} (value : m.value = some v) :
      Json.Written Json.IsWord (fun _ => True) v :=
    Json.Written.mono (fun _ word => word) (fun _ _ => trivial) v (plain v value)
  simp only [List.mem_cons, List.not_mem_nil, or_false] at listed
  rcases listed with rfl | rfl | rfl | rfl | rfl
  · exact ordered (Member.plain_optional _ _) value
  · exact ordered (Member.plain_optional _ _) value
  · rw [← Option.some.inj value]
    simp [Json.Written, Json.WrittenFields]
  · exact ordered (Member.plain_optional _ _) value
  · exact ordered (Member.plain_optional _ _) value

theorem ofText?_documentText : Json.ofText? (k.documentText d) = some (k.received d) :=
  Json.ofText?_image (k.written_document d)

theorem runsImage_document :
    RunsImage k d ((k.spec.image.filter fun s => !s.isEmpty).getD d.kernelImage) := by
  cases image : k.spec.image with
  | none => exact .fallback (.inl image)
  | some own =>
    by_cases empty : own = ""
    · subst empty
      exact .fallback (.inr image)
    · simpa [Option.filter, empty] using RunsImage.own image empty

theorem describes_received : k.Describes d (k.received d) := by
  have member {m : Member} (listed : m ∈ _) : (k.received d).get? m.name = m.value.map _ :=
    Json.get?_image_record (by simp [textMember]) listed
  have written {α : Type} [Codec α] [PlainCodec α] (value : Option α) :
      (value.map encode).map Json.Style.whole.image = value.map encode := by
    cases value with
    | none => rfl
    | some a => exact congrArg some (Json.image_of_plain (PlainCodec.plain a))
  have language := (member (.head _)).trans (written _)
  have displayName := (member (.tail _ (.head _))).trans (written _)
  have metadata := (member (.tail _ (.tail _ (.head _)))).trans (congrArg some (image_metadata ..))
  have argv := (member (.tail _ (.tail _ (.tail _ (.head _))))).trans (written _)
  have env : (k.received d).get? "env" = _ :=
    (member (.tail _ (.tail _ (.tail _ (.tail _ (.head _)))))).trans (written _)
  constructor
  · exact Json.image_record_eq_obj _
  · exact hasUnlessEmpty_filter (by simp) language
  · exact hasUnlessEmpty_filter (by simp) displayName
  · exact hasUnlessEmpty_filter (by simp) argv
  · rw [env, ← literals_empty_iff]
    simp
  · intro value given
    rw [env] at given
    obtain ⟨table, full, rfl⟩ := Option.map_eq_some_iff.mp given
    obtain ⟨_, same⟩ := Option.ite_none_left_eq_some.mp full
    cases same
    refine ⟨_, rfl, (PlainCodec.plain (literals (k.spec.env.getD []))).1, fun name => ?_⟩
    rw [← get?_literals]
    exact get?_textRows name _
  · exact ⟨_, k.runsImage_document d, metadata⟩

end Received

theorem documentText_reordered {k : KernelSpec} {env others : List EnvVar} (given : k.spec.env = some env)
    (distinct : (env.map EnvVar.name).Nodup) (perm : env.Perm others) (d : Defaults) :
    documentText { k with spec := { k.spec with env := some others } } d = k.documentText d := by
  have same : literals others = literals (k.spec.env.getD []) := by
    rw [given]
    exact (literals_eq_of_perm distinct perm).symm
  simp only [documentText, document, Option.getD_some, same]

/-- The text of the launch document is read as what the kernel spec says. It stays the same when a list of
variables with distinct names is put in another order. -/
theorem document_describes_spec (k : KernelSpec) (d : Defaults) :
    (∃ v, Json.ofText? (k.documentText d) = some v ∧ k.Describes d v) ∧
    ∀ env others, k.spec.env = some env → (env.map EnvVar.name).Nodup → env.Perm others →
      documentText { k with spec := { k.spec with env := some others } } d = k.documentText d := by
  refine ⟨⟨k.received d, k.ofText?_documentText d, k.describes_received d⟩, ?_⟩
  intro env others given distinct perm
  exact documentText_reordered given distinct perm d

def speaking (language : String) (env : List EnvVar) : KernelSpec := { (default : KernelSpec) with
  spec := { (default : KernelSpec.Spec) with language := some language, env := some env } }

theorem swapped_variables_read_alike :
    let a := EnvVar.literal "A" "1"
    let b := EnvVar.literal "B" "2"
    (speaking "\"C\"" [b, a]).documentText default = (speaking "\"C\"" [a, b]).documentText default ∧
    ∃ v, Json.ofText? ((speaking "\"C\"" [a, b]).documentText default) = some v ∧
      v.get? "language" = some (.str "\"C\"") ∧ v.get? "argv" = none := by
  intro a b
  obtain ⟨⟨v, read, tells⟩, stable⟩ := document_describes_spec (speaking "\"C\"" [a, b]) default
  refine ⟨stable [a, b] [b, a] rfl (by decide) (.swap b a []), v, read, ?_, ?_⟩
  · exact (tells.language _).mpr ⟨"\"C\"", rfl, by decide, rfl⟩
  · cases given : v.get? "argv" with
    | none => rfl
    | some value =>
      obtain ⟨_, none, _⟩ := (tells.argv value).mp given
      cases none

end KernelSpec

end JupyterWorkloads
