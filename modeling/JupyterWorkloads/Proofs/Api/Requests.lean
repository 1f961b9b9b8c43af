import JupyterWorkloads.Api.Children
import JupyterWorkloads.Proofs.Program.Exchanges

/-! What the requests to an API server are about. The path of a request starts with the place where its
collection is kept, and the custom resources are kept in another place than their children. -/
namespace JupyterWorkloads

namespace Api

def Collection.place (c : Collection) : List Char := (c.root ++ "/namespaces/").toList

def Request.Within (r : Request) (c : Collection) : Prop := c.place <+: r.path.toList

/-- The request is about objects of a kind that children are of. -/
def Request.ForChild (r : Request) : Prop := ∃ kind : ChildKind, r.Within kind.collection

/-- The request may change what the server keeps. -/
def writes (r : Calls.Request) : Bool := Request.method r != .get

/-- No query and no hash can start before the namespace. -/
def Collection.Plain (c : Collection) : Prop := c.place.all (fun ch => ch != '#' && ch != '?') = true

theorem Collection.Plain.apart {c : Collection} (plain : c.Plain) {ch : Char} (hc : ch ∈ c.place) :
    ch ≠ '#' ∧ ch ≠ '?' := by
  simpa using List.all_eq_true.mp plain ch hc

section Paths

variable {c : Collection} {ns name subresource target path : String}

theorem takeWhile_prefix {p : Char → Bool} {front text : List Char} (all : ∀ ch ∈ front, p ch = true)
    (h : front <+: text) : front <+: text.takeWhile p := by
  obtain ⟨rest, rfl⟩ := h
  rw [List.takeWhile_append_of_pos all]
  exact List.prefix_append front _

theorem prefix_of_pathOf (plain : c.Plain) (starts : c.place <+: target.toList)
    (built : pathOf target = .ok path) : c.place <+: path.toList := by
  unfold pathOf Text.Uri.path? at built
  split at built
  · next chars found =>
    cases built
    rw [String.toList_ofList]
    simp only [Option.ite_none_right_eq_some, Option.some.injEq] at found
    rw [← found.2]
    refine takeWhile_prefix (fun ch hc => by simpa using (plain.apart hc).2) ?_
    exact takeWhile_prefix (fun ch hc => by simpa using (plain.apart hc).1) starts
  · cases built

theorem Collection.place_prefix (c : Collection) (ns rest : String) :
    c.place <+: (c.path ns ++ rest).toList := by
  refine ⟨(ns ++ "/" ++ c.plural ++ rest).toList, ?_⟩
  rw [place, path, ← String.toList_append]
  simp only [String.append_assoc]

theorem Collection.prefix_of_path (plain : c.Plain) (built : pathOf (c.path ns) = .ok path) :
    c.place <+: path.toList := by
  have starts := c.place_prefix ns ""
  rw [String.append_empty] at starts
  exact prefix_of_pathOf plain starts built

theorem Collection.prefix_of_object (plain : c.Plain)
    (built : c.object ns name subresource = .ok path) : c.place <+: path.toList := by
  unfold object at built
  split at built
  · cases built
  · refine prefix_of_pathOf plain ?_ built
    rw [String.append_assoc, String.append_assoc]
    exact c.place_prefix ns _

end Paths

theorem childKind_plain (kind : ChildKind) : kind.collection.Plain := by
  cases kind <;> rfl

theorem custom_plain (plural : String) : (customCollection plural).Plain := by
  show (customCollection "").Plain
  rfl

theorem Request.not_forChild (plural : String) {r : Request}
    (h : r.Within (customCollection plural)) : ¬ r.ForChild := by
  rintro ⟨kind, within⟩
  have custom : (customCollection "").place <+: r.path.toList := h
  rcases List.prefix_or_prefix_of_prefix within custom with sub | sub
  · revert sub
    cases kind <;> decide
  · revert sub
    cases kind <;> decide

section Requests

variable {α σ : Type} {handle : (r : Calls.Request) → σ → Calls.Answer r × σ}

/-- The one request that is made to a path, if the path can be built. -/
def sent (method : Method) (path : Except ApiFailure String) (body : Option Json) : List Request :=
  path.toOption.toList.map fun path => { method, path, body }

theorem mem_sent {method : Method} {path : Except ApiFailure String} {body : Option Json} {r : Request}
    (h : r ∈ sent method path body) : path = .ok r.path ∧ r.method = method ∧ r.body = body := by
  cases path with
  | error e => cases h
  | ok p =>
    cases List.mem_singleton.mp h
    exact ⟨rfl, rfl, rfl⟩

theorem requests_request (method : Method) (path : Except ApiFailure String) (body : Option Json)
    (reader : Body → Option α) (s : σ) :
    (request method path body reader).requests handle s = sent method path body := by
  cases path <;> rfl

theorem request_promises {method : Method} {path : Except ApiFailure String} {body : Option Json}
    (reader : Body → Option α) {may : Request → Prop}
    (each : ∀ p, path = .ok p → may { method, path := p, body }) :
    (request method path body reader).Promises (fun r : Request => may r) fun _ => True := by
  cases path with
  | error e => trivial
  | ok p => exact ⟨each p rfl, fun _ => trivial⟩

theorem get?_requests (c : Collection) (ns name : String) (reader : Json → Option α) (s : σ) :
    (get? c ns name reader).requests handle s = sent .get (c.object ns name "") none := by
  refine (Program.requests_bind _ _ _ _).trans ?_
  rw [get, requests_request]
  exact List.append_nil _

theorem pathOf_error {target : String} {f : ApiFailure} (h : pathOf target = .error f) :
    f = .unaddressable := by
  unfold pathOf at h
  split at h <;> cases h
  rfl

theorem isNotFound_of_object {c : Collection} {ns name subresource : String} {f : ApiFailure}
    (h : c.object ns name subresource = .error f) : f.isNotFound = false := by
  unfold Collection.object at h
  split at h
  · cases h
    rfl
  · rw [pathOf_error h]
    rfl

theorem get?_addresses (c : Collection) (ns name : String) (reader : Json → Option α)
    {may : Request → Prop}
    (each : ∀ p, c.object ns name "" = .ok p → may { method := .get, path := p, body := none }) :
    (get? c ns name reader).Promises (fun r : Request => may r) fun answer =>
      ∀ found, answer = .ok found → ∃ path, c.object ns name "" = .ok path := by
  unfold get? get request
  cases built : c.object ns name "" with
  | error f =>
    intro found answered
    have failed : orAbsent (.error f : Except ApiFailure α) = .error f :=
      if_neg (by rw [isNotFound_of_object built]; exact Bool.false_ne_true)
    cases failed.symm.trans answered
  | ok path => exact ⟨each path built, fun _ _ _ => ⟨path, rfl⟩⟩

theorem get?_promises {c : Collection} {ns name : String} (reader : Json → Option α)
    {may : Request → Prop}
    (each : ∀ p, c.object ns name "" = .ok p → may { method := .get, path := p, body := none }) :
    (get? c ns name reader).Promises (fun r : Request => may r) fun _ => True :=
  (get?_addresses c ns name reader each).mono (fun _ h => h) fun _ _ => trivial

end Requests

section Answers

variable {α : Type} {a : α}

theorem Body.read?_eq_some {reader : Json → Option α} {body : Body} (h : body.read? reader = some a) :
    ∃ v, reader v = some a := by
  cases body with
  | json v => exact ⟨v, h⟩
  | text t =>
    obtain ⟨v, _, read⟩ := Option.bind_eq_some_iff.mp h
    exact ⟨v, read⟩

theorem Response.read_eq_ok {reader : Body → Option α} {response : Response}
    (h : response.read reader = .ok a) : response.isFailure = false ∧ reader response.body = some a := by
  unfold read at h
  split at h
  · cases h
  · next accepted =>
    split at h
    · next read =>
      cases h
      exact ⟨by simpa using accepted, read⟩
    · cases h

theorem orAbsent_eq_some {found : Except ApiFailure α} (h : orAbsent found = .ok (some a)) :
    found = .ok a := by
  unfold orAbsent at h
  split at h
  · cases h
    rfl
  · split at h <;> cases h

theorem get?_finds (c : Collection) (ns name : String) (reader : Json → Option α) :
    (get? c ns name reader).Promises (fun _ => True) fun found =>
      ∀ a, found = .ok (some a) → ∃ v, reader v = some a := by
  unfold get? get request
  cases c.object ns name "" with
  | error e =>
    intro a found
    cases orAbsent_eq_some found
  | ok path =>
    refine ⟨trivial, fun response a found => ?_⟩
    exact Body.read?_eq_some (Response.read_eq_ok (orAbsent_eq_some found)).2

end Answers

def methodOf : Store.Call → Method
  | .get _ => .get
  | .create _ => .post
  | .replace _ => .put
  | .delete _ => .delete

theorem methodOf_ne_patch (call : Store.Call) : methodOf call ≠ .patch := by
  cases call <;> nofun

/-- A call of the store sends requests about children only, with its own method. -/
theorem call_promises (call : Store.Call) : call.overApi.Promises
    (fun r : Request => r.ForChild ∧ r.method = methodOf call) fun _ => True := by
  have object {kind : ChildKind} {ns name path : String}
      (built : kind.collection.object ns name "" = .ok path) :
      kind.collection.place <+: path.toList :=
    Collection.prefix_of_object (childKind_plain kind) built
  cases call with
  | get key =>
    exact (get?_promises _ fun p built => ⟨⟨key.kind, object built⟩, rfl⟩).map _
  | create child =>
    refine (request_promises _ fun p built => ⟨⟨child.kind, ?_⟩, rfl⟩).map _
    exact Collection.prefix_of_path (childKind_plain child.kind) built
  | replace child =>
    exact (request_promises _ fun p built => ⟨⟨child.kind, object built⟩, rfl⟩).map _
  | delete key =>
    exact (request_promises _ fun p built => ⟨⟨key.kind, object built⟩, rfl⟩).map _

theorem lookup_promises (lookup : Lookup) : lookup.overApi.Promises
    (fun r : Request => ¬ r.ForChild ∧ r.method = .get) fun _ => True := by
  have read {plural : String} (reader : Json → Option Resolved) :
      (Api.get? (customCollection plural) lookup.ns lookup.name reader).Promises
        (fun r : Request => ¬ r.ForChild ∧ r.method = .get) fun _ => True := by
    refine get?_promises reader fun p built => ⟨Request.not_forChild plural ?_, rfl⟩
    exact Collection.prefix_of_object (custom_plain plural) built
  have asked : (Api.get? lookup.kind.collection lookup.ns lookup.name
      (Resolved.ofJson? lookup.kind)).Promises
        (fun r : Request => ¬ r.ForChild ∧ r.method = .get) fun _ => True := by
    cases lookup.kind <;> exact read _
  refine asked.bind fun found _ => ?_
  rcases found with f | _ | found <;> trivial

end Api

end JupyterWorkloads
