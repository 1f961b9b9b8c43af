import JupyterWorkloads.Api.Server
import JupyterWorkloads.Proofs.Pass.Stages
import JupyterWorkloads.Reconcile

/-! What a failed reconciliation leaves untouched. A parent that is gone is read and nothing more. A parent
that cannot own objects, is invalid or refers to what cannot be found never gets as far as its children:
only references are read, and only the status of an invalid parent is written. Whether that succeeds is
asked by nobody. -/
namespace JupyterWorkloads

namespace Reconcile

section Tell

variable {σ : Type} (handle : (r : Api.Calls.Request) → σ → Api.Calls.Answer r × σ)

def statusSent (p : Parent) (result : Except ReconcileError PassOutcome) :
    List Api.Calls.Request :=
  (p.statusAfter? result).toList.flatMap fun status =>
    Api.sent .patch (p.kind.collection.object (p.metadata.ns.getD "") p.name "/status") (some status.patch)

theorem writeStatus_requests (p : Parent) (status : WorkloadStatus) (s : σ) :
    (writeStatus p status).requests handle s =
      Api.sent .patch (p.kind.collection.object (p.metadata.ns.getD "") p.name "/status")
        (some status.patch) := by
  unfold writeStatus
  refine (Program.requests_bind _ _ _ _).trans ?_
  rw [Api.patchStatus, Api.requests_request]
  split <;> exact List.append_nil _

/-- What is told after a pass: how it went, and the status if it should change. -/
def tell (object : ObjectRef) (p : Parent) (result : Except ReconcileError PassOutcome) :
    Api.Action Unit :=
  let lines := result.toOption.toList.map fun outcome => passLine object outcome.report
  let written : Api.Action Unit := (p.statusAfter? result).elim (.done ()) (writeStatus p)
  lines.foldr .note written

theorem pass_eq (object : ObjectRef) (p : Parent) (d : Defaults) :
    pass object p d = (p.passOverApi d).bind fun result =>
      (tell object p result).bind fun _ => .done result := by
  refine congrArg (Program.bind (I := Api.Calls) _) (funext fun result => ?_)
  unfold tell
  cases result with
  | error e =>
    dsimp only
    cases p.statusAfter? (.error e) <;> rfl
  | ok outcome =>
    cases p.statusAfter? (.ok outcome) <;> rfl

theorem tell_requests (object : ObjectRef) (p : Parent)
    (result : Except ReconcileError PassOutcome) (s : σ) :
    (tell object p result).requests handle s = statusSent p result := by
  have written : (Option.elim (p.statusAfter? result) (.done ()) (writeStatus p)).requests handle s =
      statusSent p result := by
    unfold statusSent
    cases p.statusAfter? result with
    | none => rfl
    | some status => exact (writeStatus_requests handle p status s).trans (List.append_nil _).symm
  cases result <;> exact written

theorem pass_run (object : ObjectRef) (p : Parent) (d : Defaults) (s : σ) :
    let result := ((p.passOverApi d).run handle s).value
    ((pass object p d).run handle s).value = result ∧ (pass object p d).requests handle s =
      (p.passOverApi d).requests handle s ++ statusSent p result := by
  rw [pass_eq, Program.value_bind, Program.requests_bind, Program.value_bind, Program.requests_bind,
    tell_requests]
  exact ⟨rfl, congrArg _ (List.append_nil _)⟩

end Tell

end Reconcile

section Visit

variable {σ : Type} {handle : (r : Api.Calls.Request) → σ → Api.Calls.Answer r × σ} {s : σ}
  {key : ParentKey} {options : Options} {d : Defaults}

def ParentKey.read (key : ParentKey) : Api.Action (Except ApiFailure (Option Parent)) :=
  Api.get? key.collection (key.ns.getD "") key.name (Parent.ofJson? key.kind)

theorem ParentKey.read_requests (key : ParentKey) : key.read.requests handle s =
    Api.sent .get (key.collection.object (key.ns.getD "") key.name "") none :=
  Api.get?_requests _ _ _ _ s

def Visit.after (options : Options) : Except ReconcileError PassOutcome → Visit
  | .ok _ => ⟨none, .afterSuccess options⟩
  | .error e => ⟨some e, .afterFailure options e⟩

def Visit.close (object : ObjectRef) (options : Options) (result : Except ReconcileError PassOutcome) :
    Api.Action Visit :=
  match result with
  | .ok _ => .done (after options result)
  | .error e => .note (e.logLine object) (.done (after options result))

theorem Visit.close_run (object : ObjectRef) (result : Except ReconcileError PassOutcome) :
    ((close object options result).run handle s).value = after options result ∧
      (close object options result).requests handle s = [] := by
  cases result <;> exact ⟨rfl, rfl⟩

theorem visit_eq (key : ParentKey) (options : Options) (d : Defaults) :
    visit key options d = key.read.bind fun
      | .error f => Visit.close key.ref options (.error (.platform key.ref f))
      | .ok none => .note ⟨.debug, "Object no longer exists: " ++ key.ref.display⟩
          (.done ⟨none, .onChange⟩)
      | .ok (some p) => (Reconcile.pass key.ref p d).bind (Visit.close key.ref options) := by
  refine (Program.bind_assoc key.read _ _).trans (congrArg _ (funext fun found => ?_))
  rcases found with f | _ | p
  · rfl
  · rfl
  · refine (Program.bind_assoc (Reconcile.pass key.ref p d) _ _).trans ?_
    refine congrArg _ (funext fun result => ?_)
    cases result <;> rfl

theorem visit_unread (options : Options) (d : Defaults) {f : ApiFailure}
    (h : (key.read.run handle s).value = .error f) :
    ((visit key options d).run handle s).value = .after options (.error (.platform key.ref f)) ∧
      (visit key options d).requests handle s = key.read.requests handle s := by
  rw [visit_eq, Program.value_bind, Program.requests_bind, h]
  exact ⟨rfl, List.append_nil _⟩

theorem visit_gone (options : Options) (d : Defaults)
    (h : (key.read.run handle s).value = .ok none) :
    ((visit key options d).run handle s).value = ⟨none, .onChange⟩ ∧
      (visit key options d).requests handle s = key.read.requests handle s := by
  rw [visit_eq, Program.value_bind, Program.requests_bind, h]
  exact ⟨rfl, List.append_nil _⟩

theorem visit_found (options : Options) (d : Defaults) {p : Parent}
    (h : (key.read.run handle s).value = .ok (some p)) :
    let t := (key.read.run handle s).state
    let result := ((p.passOverApi d).run handle t).value
    ((visit key options d).run handle s).value = .after options result ∧
      (visit key options d).requests handle s = key.read.requests handle s ++
        ((p.passOverApi d).requests handle t ++ Reconcile.statusSent p result) := by
  intro t result
  obtain ⟨value, requests⟩ := Reconcile.pass_run handle key.ref p d t
  rw [visit_eq, Program.value_bind, Program.requests_bind, h]
  dsimp only
  rw [Program.value_bind, Program.requests_bind, value, requests, (Visit.close_run _ _).1,
    (Visit.close_run _ _).2, List.append_nil]
  exact ⟨rfl, rfl⟩

theorem Parent.kind_of_ofJson? {kind : ParentKind} {v : Json} {p : Parent}
    (h : Parent.ofJson? kind v = some p) : p.kind = kind := by
  cases kind <;> obtain ⟨_, _, rfl⟩ := Option.map_eq_some_iff.mp h <;> rfl

theorem ParentKey.read_kind {p : Parent} (h : (key.read.run handle s).value = .ok (some p)) :
    p.kind = key.kind := by
  obtain ⟨v, read⟩ := (Api.get?_finds _ _ _ _).value p h
  exact Parent.kind_of_ofJson? read

end Visit

section Contained

variable {σ : Type}

/-- The request writes the status that says why the spec of the parent is invalid. -/
def Api.Request.Tells (r : Api.Request) (p : Parent) (reason : InvalidSpec) : Prop :=
  r.method = .patch ∧
    p.kind.collection.object (p.metadata.ns.getD "") p.name "/status" = .ok r.path ∧
      ∃ status, validationStatus? p reason = some status ∧ r.body = some status.patch

theorem Reconcile.statusSent_error (p : Parent) (e : ReconcileError) :
    statusSent p (.error e) = [] ∨ ∃ (r : Api.Request) (reason : InvalidSpec),
      statusSent p (.error e) = [r] ∧ e = .validation reason ∧ r.Tells p reason := by
  unfold statusSent
  cases told : p.statusAfter? (.error e) with
  | none => exact .inl rfl
  | some status =>
    cases e with
    | validation reason =>
      cases path : p.kind.collection.object (p.metadata.ns.getD "") p.name "/status" with
      | error f => exact .inl rfl
      | ok built => exact .inr ⟨_, reason, rfl, rfl, rfl, path, status, told, rfl⟩
    | _ => cases told

theorem Api.Request.Tells.hasStatus {r : Api.Request} {p : Parent} {reason : InvalidSpec}
    (h : r.Tells p reason) : p.kind.hasStatus = true := by
  obtain ⟨_, _, status, told, _⟩ := h
  unfold validationStatus? at told
  split at told
  · assumption
  · cases told

theorem Api.Request.not_forChild_of_object {r : Api.Request} {kind : ParentKind}
    {ns name subresource : String} (built : kind.collection.object ns name subresource = .ok r.path) :
    ¬ r.ForChild :=
  Api.Request.not_forChild kind.plural
    (Api.Collection.prefix_of_object (Api.custom_plain _) built)

section Cases

variable {handle : (r : Api.Calls.Request) → σ → Api.Calls.Answer r × σ} {s : σ}
  {key : ParentKey} {options : Options} {d : Defaults}

theorem ParentKey.read_reads {r : Api.Request} (h : r ∈ key.read.requests handle s) :
    ¬ r.ForChild ∧ r.method = .get := by
  rw [key.read_requests] at h
  obtain ⟨built, method, _⟩ := Api.mem_sent h
  exact ⟨Api.Request.not_forChild_of_object built, method⟩

theorem ParentKey.path_of_read {p : Parent} (h : (key.read.run handle s).value = .ok (some p)) :
    ∃ path, key.collection.object (key.ns.getD "") key.name "" = .ok path := by
  have addresses : key.read.Promises (fun _ : Api.Request => True) _ :=
    Api.get?_addresses _ _ _ _ fun _ _ => trivial
  exact addresses.value (some p) h

theorem early_visit {e : ReconcileError} (early : e.Early)
    (failed : ((visit key options d).run handle s).value.failure = some e) :
    ∃ p, (key.read.run handle s).value = .ok (some p) ∧
      ((p.passOverApi d).run handle (key.read.run handle s).state).value = .error e ∧
      (visit key options d).requests handle s = key.read.requests handle s ++
        ((p.passOverApi d).requests handle (key.read.run handle s).state ++
          Reconcile.statusSent p (.error e)) := by
  rcases read : (key.read.run handle s).value with f | _ | p
  · rw [(visit_unread options d read).1] at failed
    cases failed
    exact early.elim
  · rw [(visit_gone options d read).1] at failed
    cases failed
  · obtain ⟨value, requests⟩ := visit_found options d read
    rw [value] at failed
    cases ended : ((p.passOverApi d).run handle (key.read.run handle s).state).value with
    | ok outcome =>
      rw [ended] at failed
      cases failed
    | error e' =>
      rw [ended] at failed requests
      cases failed
      exact ⟨p, rfl, ended, requests⟩

theorem visit_of_absent {path : String}
    (built : key.collection.object (key.ns.getD "") key.name "" = .ok path)
    (refused : Api.Response.isFailure (handle { method := .get, path, body := none } s).1 = true)
    (absent : (Api.Response.refusal (handle { method := .get, path, body := none } s).1).reason =
      "NotFound") :
    ((visit key options d).run handle s).value = ⟨none, .onChange⟩ ∧
      (visit key options d).requests handle s = [{ method := .get, path, body := none }] := by
  have read : (key.read.run handle s).value = .ok none := by
    unfold ParentKey.read Api.get? Api.get
    rw [built]
    show Api.orAbsent (Api.Response.read _ (handle { method := .get, path, body := none } s).1) = _
    unfold Api.Response.read Api.orAbsent
    rw [if_pos refused]
    exact if_pos (by simpa [ApiFailure.isNotFound] using absent)
  obtain ⟨value, requests⟩ := visit_gone options d read
  rw [key.read_requests, built] at requests
  exact ⟨value, requests⟩

theorem early_visit_childless {e : ReconcileError} (early : e.Early)
    (failed : ((visit key options d).run handle s).value.failure = some e) {r : Api.Request}
    (made : r ∈ (visit key options d).requests handle s) : ¬ r.ForChild := by
  obtain ⟨p, read, ended, requests⟩ := early_visit early failed
  rw [requests] at made
  rcases List.mem_append.mp made with first | later
  · exact (key.read_reads first).1
  rcases List.mem_append.mp later with passed | told
  · exact ((early_pass_reads early ended).1 r passed).1
  · rcases Reconcile.statusSent_error p e with none | ⟨r', reason, one, _, tells⟩
    · rw [none] at told
      cases told
    · rw [one] at told
      cases List.mem_singleton.mp told
      exact Api.Request.not_forChild_of_object tells.2.1

theorem early_visit_writes {e : ReconcileError} (early : e.Early)
    (failed : ((visit key options d).run handle s).value.failure = some e) :
    ((visit key options d).requests handle s).filter Api.writes = [] ∨
      ∃ (r : Api.Request) (p : Parent) (reason : InvalidSpec),
        ((visit key options d).requests handle s).filter Api.writes = [r] ∧
          (key.read.run handle s).value = .ok (some p) ∧ e = .validation reason ∧
            key.kind.hasStatus = true ∧ r.Tells p reason := by
  obtain ⟨p, read, ended, requests⟩ := early_visit early failed
  have silent {sent : List Api.Calls.Request} (reads : ∀ r ∈ sent, Api.Request.method r = .get) :
      sent.filter Api.writes = [] :=
    List.filter_eq_nil_iff.mpr fun r hr => by simp [Api.writes, reads r hr]
  rw [requests, List.filter_append, List.filter_append,
    silent fun r first => (key.read_reads first).2,
    silent fun r passed => ((early_pass_reads early ended).1 r passed).2]
  rcases Reconcile.statusSent_error p e with none | ⟨r, reason, one, invalid, tells⟩
  · rw [none]
    exact .inl rfl
  · refine .inr ⟨r, p, reason, ?_, read, invalid, ParentKey.read_kind read ▸ tells.hasStatus, tells⟩
    rw [one]
    refine List.filter_eq_self.mpr fun r' same => ?_
    cases List.mem_singleton.mp same
    simp [Api.writes, tells.1]

theorem unowned_visit_reads {object : ObjectRef}
    (failed : ((visit key options d).run handle s).value.failure = some (.missingUid object)) :
    ∃ path, (visit key options d).requests handle s = [{ method := .get, path, body := none }] := by
  have early : (ReconcileError.missingUid object).Early := trivial
  obtain ⟨p, read, ended, requests⟩ := early_visit early failed
  obtain ⟨path, built⟩ := key.path_of_read read
  rw [key.read_requests, built, (early_pass_reads early ended).2 object rfl] at requests
  exact ⟨path, requests⟩

/-- How a visit ends and what it asks is settled before the status is written. -/
theorem visit_congr {handle' : (r : Api.Calls.Request) → σ → Api.Calls.Answer r × σ}
    (agree : ∀ (r : Api.Request) s, r.method ≠ .patch → handle' r s = handle r s) :
    ((visit key options d).run handle' s).value = ((visit key options d).run handle s).value ∧
      (visit key options d).requests handle' s = (visit key options d).requests handle s := by
  have reads : key.read.Promises (fun r : Api.Request => r.method ≠ .patch) fun _ => True :=
    Api.get?_promises _ fun _ _ => nofun
  obtain ⟨same, made⟩ := reads.run_congr agree s
  rcases read : (key.read.run handle s).value with f | _ | p
  · obtain ⟨value, requests⟩ := visit_unread options d read
    rw [← same] at read
    obtain ⟨value', requests'⟩ := visit_unread options d read
    rw [value, value', requests, requests', made]
    exact ⟨rfl, rfl⟩
  · obtain ⟨value, requests⟩ := visit_gone options d read
    rw [← same] at read
    obtain ⟨value', requests'⟩ := visit_gone options d read
    rw [value, value', requests, requests', made]
    exact ⟨rfl, rfl⟩
  · obtain ⟨value, requests⟩ := visit_found options d read
    rw [← same] at read
    obtain ⟨value', requests'⟩ := visit_found options d read
    obtain ⟨same', made'⟩ := (passOverApi_unpatched p d).run_congr agree (key.read.run handle s).state
    rw [value, value', requests, requests', made, same, same', made']
    exact ⟨rfl, rfl⟩

end Cases

/-- What a visit leaves alone when it fails early, for answers that may be anything. -/
structure Contained (handle : (r : Api.Calls.Request) → σ → Api.Calls.Answer r × σ) (s : σ)
    (key : ParentKey) (options : Options) (d : Defaults) : Prop where
  /-- A parent that is not found is the end, until it changes. -/
  gone : ∀ path, key.collection.object (key.ns.getD "") key.name "" = .ok path →
    let answer : Api.Response := (handle { method := .get, path, body := none } s).1
    answer.isFailure = true → answer.refusal.reason = "NotFound" →
      ((visit key options d).run handle s).value = ⟨none, .onChange⟩ ∧
        (visit key options d).requests handle s = [{ method := .get, path, body := none }]
  /-- No object that a child could be is read or written. -/
  childless : ∀ e, ((visit key options d).run handle s).value.failure = some e → e.Early →
    ∀ r : Api.Request, r ∈ (visit key options d).requests handle s → ¬ r.ForChild
  /-- Nothing is written but the status of the parent, once, when its spec is invalid. -/
  told : ∀ e, ((visit key options d).run handle s).value.failure = some e → e.Early →
    let written := ((visit key options d).requests handle s).filter Api.writes
    written = [] ∨ ∃ (r : Api.Request) (p : Parent) (reason : InvalidSpec), written = [r] ∧
      (key.read.run handle s).value = .ok (some p) ∧ e = .validation reason ∧
        key.kind.hasStatus = true ∧ r.Tells p reason
  /-- A parent that cannot own anything is read and nothing else is. -/
  unowned : ∀ object, ((visit key options d).run handle s).value.failure = some (.missingUid object) →
    ∃ path, (visit key options d).requests handle s = [{ method := .get, path, body := none }]
  /-- Other answers to patches change neither how the visit ends nor what it asks. -/
  unpatched : ∀ handle' : (r : Api.Calls.Request) → σ → Api.Calls.Answer r × σ,
    (∀ (r : Api.Request) s, r.method ≠ .patch → handle' r s = handle r s) →
      ((visit key options d).run handle' s).value = ((visit key options d).run handle s).value ∧
        (visit key options d).requests handle' s = (visit key options d).requests handle s

/-- Whatever the server answers, a visit that fails early is contained. What is kept from is exactly what
the store of children asks: all that it sends is about objects that a child could be. -/
theorem failure_is_contained (handle : (r : Api.Calls.Request) → σ → Api.Calls.Answer r × σ) (s : σ)
    (key : ParentKey) (options : Options) (d : Defaults) :
    Contained handle s key options d ∧
      ∀ call : Store.Call, call.overApi.Promises (fun r : Api.Request => r.ForChild) fun _ => True := by
  refine ⟨?_, fun call => (Api.call_promises call).mono (fun _ h => h.1) fun _ h => h⟩
  exact {
    gone := fun _ built => visit_of_absent built
    childless := fun _ failed early _ => early_visit_childless early failed
    told := fun _ failed early => early_visit_writes early failed
    unowned := fun _ => unowned_visit_reads
    unpatched := fun _ => visit_congr }

def Api.Server.emptyNotebook : Api.Server where
  objects := Table.ofList [("/apis/kubeflow.tkestack.io/v1alpha1/namespaces/team/jupyternotebooks/lab",
    .obj [("metadata", .obj [("name", .str "lab"), ("namespace", .str "team"), ("uid", .str "1")]),
      ("spec", .obj [])])]
  counter := 1
  rules := []

theorem empty_notebook_is_told :
    let key : ParentKey := ⟨.notebook, some "team", "lab"⟩
    let asked := (visit key {} {}).requests Api.Server.handle Api.Server.emptyNotebook
    let deaf : (r : Api.Calls.Request) → Api.Server → Api.Calls.Answer r × Api.Server := fun r s =>
      if Api.Request.method r = .patch then (Api.Server.refuse 500 "InternalError" "down", s)
      else Api.Server.handle r s
    ((visit key {} {}).run Api.Server.handle Api.Server.emptyNotebook).value =
        ⟨some (.validation .emptyNotebook), .onChange⟩ ∧
      asked.map Api.Request.method = [.get, .patch] ∧
      (∀ r : Api.Request, r ∈ asked → ¬ r.ForChild) ∧
      ((visit key {} {}).run deaf Api.Server.emptyNotebook).value =
        ⟨some (.validation .emptyNotebook), .onChange⟩ := by
  intro key asked deaf
  have contained := (failure_is_contained Api.Server.handle Api.Server.emptyNotebook key {} {}).1
  have ended : ((visit key {} {}).run Api.Server.handle Api.Server.emptyNotebook).value =
    ⟨some (.validation .emptyNotebook), .onChange⟩ := by decide +kernel
  have early : (ReconcileError.validation .emptyNotebook).Early := trivial
  have failed : ((visit key {} {}).run Api.Server.handle Api.Server.emptyNotebook).value.failure =
      some (.validation .emptyNotebook) := by rw [ended]
  refine ⟨ended, by decide +kernel, fun r made => ?_, ?_⟩
  · exact contained.childless _ failed early r made
  refine ((contained.unpatched deaf ?_).1).trans ended
  intro r s reads
  exact if_neg reads

end Contained

end JupyterWorkloads
