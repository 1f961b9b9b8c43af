import JupyterWorkloads.Api.Server
import JupyterWorkloads.Proofs.Api.Requests
import JupyterWorkloads.Proofs.Converge.Reliable

/-! Creations that an API server refuses. A pass takes a refusal for a lost race when its code is 409,
whatever reason the server gives; every other refusal of a creation is the last that the pass hears. -/
namespace JupyterWorkloads

namespace Api

abbrev Exchange : Type := (r : Calls.Request) × Calls.Answer r

namespace Exchange

def method (x : Exchange) : Method := Request.method x.1

def refusal (x : Exchange) : ErrorResponse := Response.refusal x.2

def failedCreate (x : Exchange) : Bool := x.method == .post && Response.isFailure x.2

/-- A refused creation that counts as lost to another writer. -/
def lost (x : Exchange) : Bool := x.failedCreate && x.refusal.code == 409

end Exchange

end Api

namespace Converge

open Api Store

/-- The last that was heard is no lost creation. -/
def WentOn (talk : List Exchange) : Prop := ∀ x ∈ talk.getLast?, x.lost = false

/-- How a run went that started with the report: the refused creations that it went on after are lost ones,
which its report counts, and any other refused creation ended it. -/
inductive Tolerant (report : Report) : List Exchange → Except ReconcileError Report → Prop where
  | passed {talk : List Exchange} {final : Report} : (∀ x ∈ talk, x.failedCreate = x.lost) →
      WentOn talk → final.raced = report.raced + talk.countP Exchange.lost →
      Tolerant report talk (.ok final)
  | failed {talk : List Exchange} {e : ReconcileError} : (∀ x ∈ talk, x.failedCreate = x.lost) →
      WentOn talk → Tolerant report talk (.error e)
  | refused {talk : List Exchange} {x : Exchange} {object : ObjectRef} :
      (∀ y ∈ talk, y.failedCreate = y.lost) → x.failedCreate = true → x.lost = false →
      Tolerant report (talk ++ [x]) (.error (.platform object (.refused x.refusal)))

def overApi {α : Type} (p : Store.Action α) : Api.Action α := p.through Call.overApi

theorem overApi_bind {α β : Type} (p : Store.Action α) (f : α → Store.Action β) :
    overApi (p.bind f) = (overApi p).bind fun a => overApi (f a) :=
  Program.through_bind p f

section Tolerant

variable {report next : Report} {talk talk' : List Exchange} {result : Except ReconcileError Report}

def Quiet (talk : List Exchange) : Prop := ∀ x ∈ talk, x.failedCreate = false

theorem Quiet.lost (quiet : Quiet talk) {x : Exchange} (hx : x ∈ talk) : x.lost = false := by
  rw [Exchange.lost, quiet x hx, Bool.false_and]

theorem wentOn_nil : WentOn [] := nofun

theorem WentOn.append (h : WentOn talk) (h' : WentOn talk') : WentOn (talk ++ talk') := by
  intro x hx
  rw [List.getLast?_append] at hx
  cases last : talk'.getLast? with
  | none =>
    rw [last] at hx
    exact h x hx
  | some y =>
    rw [last] at hx
    exact h' x (last ▸ hx)

theorem WentOn.cons {x : Exchange} (more : talk ≠ []) (h : WentOn talk) : WentOn (x :: talk) := by
  intro y hy
  rw [List.getLast?_cons_of_ne_nil more] at hy
  exact h y hy

theorem settled_append (h : ∀ x ∈ talk, x.failedCreate = x.lost)
    (h' : ∀ x ∈ talk', x.failedCreate = x.lost) : ∀ x ∈ talk ++ talk', x.failedCreate = x.lost :=
  fun x hx => (List.mem_append.mp hx).elim (h x) (h' x)

theorem Tolerant.append (first : Tolerant report talk (.ok next)) (rest : Tolerant next talk' result) :
    Tolerant report (talk ++ talk') result := by
  cases first with
  | passed settled went raced =>
    cases rest with
    | passed settled' went' raced' =>
      refine .passed (settled_append settled settled') (went.append went') ?_
      rw [List.countP_append, raced', raced, Nat.add_assoc]
    | failed settled' went' => exact .failed (settled_append settled settled') (went.append went')
    | refused settled' fails foreign =>
      rw [← List.append_assoc]
      exact .refused (settled_append settled settled') fails foreign

theorem Tolerant.after_lost {x : Exchange} (fails : x.failedCreate = true) (lost : x.lost = true)
    (more : talk ≠ []) (rest : Tolerant { report with raced := report.raced + 1 } talk result) :
    Tolerant report (x :: talk) result := by
  have one : ∀ y ∈ [x], y.failedCreate = y.lost := by
    intro y hy
    rw [List.mem_singleton.mp hy, fails, lost]
  cases rest with
  | passed settled went raced =>
    refine .passed (settled_append one settled) (went.cons more) ?_
    rw [List.countP_cons_of_pos lost, raced]
    dsimp only
    omega
  | failed settled went => exact .failed (settled_append one settled) (went.cons more)
  | refused settled fails' foreign => exact .refused (settled_append one settled) fails' foreign

theorem Tolerant.quiet (quiet : Quiet talk) (rest : Tolerant report talk' result) :
    Tolerant report (talk ++ talk') result := by
  refine .append (.passed (fun x hx => ?_) (fun x hx => ?_) ?_) rest
  · rw [quiet x hx, quiet.lost hx]
  · exact quiet.lost (List.mem_of_mem_getLast? hx)
  · rw [List.countP_eq_zero.mpr fun x hx => by simp [quiet.lost hx]]
    rfl

end Tolerant

section Judged

variable {σ α : Type} (handle : (r : Api.Calls.Request) → σ → Api.Calls.Answer r × σ)

/-- The program goes on after lost creations only, from any state. -/
def Judged (report : Report) (p : Api.Action (Except ReconcileError Report)) : Prop :=
  ∀ s, Tolerant report (p.exchanges handle s) (p.run handle s).value

variable {handle} {report : Report} {post : α → Prop} {q : Api.Action α}
  {f : α → Api.Action (Except ReconcileError Report)}

theorem judged_ok {final : Report} (same : final.raced = report.raced) :
    Judged handle report (.done (.ok final)) :=
  fun _ => .passed (fun _ hx => absurd hx List.not_mem_nil) wentOn_nil same

theorem judged_error (e : ReconcileError) : Judged handle report (.done (.error e)) :=
  fun _ => .failed (fun _ hx => absurd hx List.not_mem_nil) wentOn_nil

theorem Judged.note {p : Api.Action (Except ReconcileError Report)} (line : LogLine)
    (h : Judged handle report p) : Judged handle report (.note line p) := h

/-- What follows a report is judged from there, and an error is the end. -/
theorem Judged.bind {p : Api.Action (Except ReconcileError Report)}
    {f : Except ReconcileError Report → Api.Action (Except ReconcileError Report)}
    (first : Judged handle report p) (after : ∀ next, Judged handle next (f (.ok next)))
    (ends : ∀ e, f (.error e) = .done (.error e)) : Judged handle report (p.bind f) := by
  intro s
  rw [Program.exchanges_bind, Program.value_bind]
  have head := first s
  generalize (p.run handle s).value = result at head ⊢
  cases result with
  | ok next => exact head.append (after next _)
  | error e =>
    rw [ends]
    show Tolerant report (p.exchanges handle s ++ []) (.error e)
    rw [List.append_nil]
    exact head

theorem Judged.after_quiet
    (quiet : q.Promises (fun r : Api.Request => r.method ≠ .post) post)
    (rest : ∀ a, post a → Judged handle report (f a)) : Judged handle report (q.bind f) := by
  intro s
  rw [Program.exchanges_bind, Program.value_bind]
  refine .quiet ?_ (rest _ quiet.value _)
  intro x hx
  have made : x.1 ∈ q.requests handle s := by
    rw [← Program.map_fst_exchanges]
    exact List.mem_map_of_mem hx
  have other : x.method ≠ .post := quiet.of_mem made
  rw [Exchange.failedCreate, beq_eq_false_iff_ne.mpr other, Bool.false_and]

end Judged

section Creations

variable {σ : Type} {handle : (r : Api.Calls.Request) → σ → Api.Calls.Answer r × σ}

def creationAnswer (child : Child) (response : Response) : Except StoreError Child :=
  (response.read (Body.read? (Child.ofJson? child.kind))).mapError (StoreError.ofCreate child.ref)

theorem creationAnswer_refused {response : Response} (refused : response.isFailure = true)
    (child : Child) : creationAnswer child response =
      .error (StoreError.ofCreate child.ref (.refused response.refusal)) := by
  rw [creationAnswer, Response.read, if_pos refused]
  rfl

theorem creationAnswer_accepted {response : Response} (accepted : response.isFailure = false)
    (child : Child) (object : ObjectRef) :
    creationAnswer child response ≠ .error (.alreadyExists object) := by
  rw [creationAnswer, Response.read, if_neg (Bool.eq_false_iff.mp accepted)]
  split <;> exact nofun

theorem create_overApi (child : Child) : (Call.create child).overApi =
    match pathOf (child.kind.collection.path child.ns) with
    | .error f => .done (.error (StoreError.ofCreate child.ref f))
    | .ok path => .ask { method := .post, path, body := some child.toJson } fun response =>
      .done (creationAnswer child response) := by
  show (Api.create child.kind.collection child.ns child.toJson (Child.ofJson? child.kind) >>=
    fun stored => pure (stored.mapError (StoreError.ofCreate child.ref))) = _
  unfold Api.create request
  cases pathOf (child.kind.collection.path child.ns) <;> rfl

/-- How a creation is answered: it is refused with the code 409, refused with another one, or not refused
at all. -/
inductive Creation (object : ObjectRef) : List Exchange → Except StoreError Child → Prop where
  | lost {x : Exchange} : x.failedCreate = true → x.lost = true →
      Creation object [x] (.error (.alreadyExists object))
  | refused {x : Exchange} : x.failedCreate = true → x.lost = false →
      Creation object [x] (.error (.api object (.refused x.refusal)))
  | quiet {talk : List Exchange} {answer : Except StoreError Child} : Quiet talk →
      (∀ object, answer ≠ .error (.alreadyExists object)) → Creation object talk answer

theorem create_answer (handle : (r : Api.Calls.Request) → σ → Api.Calls.Answer r × σ) (child : Child)
    (s : σ) : Creation child.ref ((Call.create child).overApi.exchanges handle s)
      ((Call.create child).overApi.run handle s).value := by
  rw [create_overApi]
  cases built : pathOf (child.kind.collection.path child.ns) with
  | error f =>
    cases pathOf_error built
    exact .quiet (fun x hx => absurd hx List.not_mem_nil) nofun
  | ok path =>
    let x : Exchange := ⟨{ method := .post, path, body := some child.toJson },
      (handle { method := .post, path, body := some child.toJson } s).1⟩
    show Creation child.ref [x] (creationAnswer child x.2)
    cases refused : Response.isFailure x.2 with
    | true =>
      have fails : x.failedCreate = true := refused
      rw [creationAnswer_refused refused child]
      cases code : x.refusal.code == 409 with
      | true =>
        have mapped : StoreError.ofCreate child.ref (.refused x.refusal) = .alreadyExists child.ref :=
          if_pos code
        exact mapped ▸ .lost fails (by rw [Exchange.lost, fails, code]; rfl)
      | false =>
        have mapped : StoreError.ofCreate child.ref (.refused x.refusal) =
            .api child.ref (.refused x.refusal) := if_neg (Bool.eq_false_iff.mp code)
        exact mapped ▸ .refused fails (by rw [Exchange.lost, fails, code]; rfl)
    | false =>
      refine .quiet (fun y hy => ?_) (creationAnswer_accepted refused child)
      cases List.mem_singleton.mp hy
      exact refused

theorem Judged.after_creation {report : Report} {object : ObjectRef}
    {q : Api.Action (Except StoreError Child)}
    {f : Except StoreError Child → Api.Action (Except ReconcileError Report)}
    (created : ∀ s, Creation object (q.exchanges handle s) (q.run handle s).value)
    (lost : Judged handle { report with raced := report.raced + 1 } (f (.error (.alreadyExists object))))
    (heard : ∀ s, (f (.error (.alreadyExists object))).requests handle s ≠ [])
    (refused : ∀ cause, ∃ line,
      f (.error (.api object cause)) = .note line (.done (.error (.platform object cause))))
    (quiet : ∀ answer, (∀ object, answer ≠ .error (.alreadyExists object)) →
      Judged handle report (f answer)) : Judged handle report (q.bind f) := by
  intro s
  rw [Program.exchanges_bind, Program.value_bind]
  have made := created s
  generalize q.exchanges handle s = talk at made ⊢
  generalize (q.run handle s).value = answer at made ⊢
  cases made with
  | lost fails counted =>
    refine .after_lost fails counted (fun silent => heard (q.run handle s).state ?_) (lost _)
    exact (Program.map_fst_exchanges _ _ _).symm.trans (congrArg _ silent)
  | refused fails foreign =>
    obtain ⟨line, ends⟩ := refused _
    rw [ends]
    exact .refused (fun y hy => absurd hy List.not_mem_nil) fails foreign
  | quiet silent other => exact .quiet silent (quiet _ other _)

variable (report : Report) (owner : OwnerReference)

theorem judged_ask {call : Call} (other : methodOf call ≠ .post)
    {next : call.Answer → Store.Action (Except ReconcileError Report)}
    (rest : ∀ answer, Judged handle report (overApi (next answer))) :
    Judged handle report (overApi (.ask call next)) := by
  refine Judged.after_quiet ((call_promises call).mono (fun r sent posts => ?_) fun _ h => h)
    fun answer _ => rest answer
  exact other (sent.2.symm.trans posts)

def Addressable (key : ChildKey) : Prop :=
  ∃ path, key.kind.collection.object key.ns key.name "" = .ok path

theorem judged_get {key : ChildKey}
    {next : Except StoreError (Option Child) → Store.Action (Except ReconcileError Report)}
    (failed : ∀ e, Judged handle report (overApi (next (.error e))))
    (found : ∀ live, Addressable key → Judged handle report (overApi (next (.ok live)))) :
    Judged handle report (overApi (.ask (.get key) next)) := by
  have addressed : (Call.get key).overApi.Promises (fun r : Api.Request => r.method ≠ .post)
      fun answer : Except StoreError (Option Child) => ∀ live, answer = .ok live → Addressable key := by
    refine Program.Promises.bind (get?_addresses _ _ _ _ fun _ _ => nofun) fun read addresses => ?_
    intro live answered
    cases read with
    | error f => cases answered
    | ok found => exact addresses found rfl
  refine Judged.after_quiet addressed fun answer known => ?_
  cases answer with
  | error e => exact failed e
  | ok live => exact found live (known live rfl)

theorem get_heard {key : ChildKey} (addressable : Addressable key)
    (next : Except StoreError (Option Child) → Store.Action (Except ReconcileError Report)) (s : σ) :
    (overApi (.ask (.get key) next)).requests handle s ≠ [] := by
  obtain ⟨path, built⟩ := addressable
  have first : (Call.get key).overApi.requests handle s =
      [{ method := .get, path, body := none }] := by
    refine (Program.requests_bind _ _ _ _).trans ?_
    rw [get?_requests, built]
    rfl
  intro none
  have parts := (Program.requests_bind handle (Call.get key).overApi _ s).symm.trans none
  cases first.symm.trans (List.append_eq_nil_iff.mp parts).1

theorem judged_create {child : Child}
    {next : Except StoreError Child → Store.Action (Except ReconcileError Report)}
    (lost : Judged handle { report with raced := report.raced + 1 }
      (overApi (next (.error (.alreadyExists child.ref)))))
    (heard : ∀ s, (overApi (next (.error (.alreadyExists child.ref)))).requests handle s ≠ [])
    (refused : ∀ cause, ∃ line, next (.error (.api child.ref cause)) =
      .note line (.done (.error (.platform child.ref cause))))
    (quiet : ∀ answer, (∀ object, answer ≠ .error (.alreadyExists object)) →
      Judged handle report (overApi (next answer))) :
    Judged handle report (overApi (.ask (.create child) next)) := by
  refine Judged.after_creation (create_answer handle child) lost heard (fun cause => ?_) quiet
  obtain ⟨line, ends⟩ := refused cause
  exact ⟨line, congrArg overApi ends⟩

theorem create_judged {desired : Child} (addressable : Addressable desired.key) :
    Judged handle report (overApi (create desired report).run) := by
  rw [create_run]
  refine Judged.note _ (judged_create report ?_ ?_ (fun cause => ⟨_, rfl⟩) ?_)
  · refine Judged.note _ (judged_ask _ (by nofun) fun answer => ?_)
    rcases answer with e | live
    · exact judged_error _
    · exact judged_ok (observe_counters _ _).2.2.2
  · exact get_heard addressable _
  · intro answer other
    rcases answer with (_ | _ | _) | live
    · exact absurd rfl (other _)
    · exact Judged.note _ (judged_error _)
    · exact Judged.note _ (judged_error _)
    · exact judged_ok (observe_counters _ _).2.2.2

theorem update_judged (live : Child) {desired : Child} (addressable : Addressable desired.key) :
    Judged handle report (overApi (update live desired owner report).run) := by
  rw [update_run]
  split
  · refine Judged.note _ (judged_ask report (by nofun) fun answer => ?_)
    rcases answer with e | _
    · exact Judged.note _ (judged_error _)
    · exact create_judged report addressable
  · refine Judged.note _ (judged_ask report (by nofun) fun answer => ?_)
    rcases answer with e | stored
    · exact Judged.note _ (judged_error _)
    · exact judged_ok (observe_counters _ _).2.2.2

theorem child_judged (generated : Child) :
    Judged handle report (overApi (child owner report generated).run) := by
  rw [child_run]
  refine judged_get report (fun e => judged_error _) fun found addressable => ?_
  rcases found with _ | live
  · exact create_judged report addressable
  · dsimp only
    split
    · exact Judged.note _ (judged_ok (observe_counters _ _).2.2.2)
    · exact update_judged report owner live addressable

/-- Over a server, a pass goes on after lost creations only. -/
theorem children_judged (cs : List Child) :
    Judged handle report (overApi (children owner report cs).run) := by
  induction cs generalizing report with
  | nil => exact judged_ok rfl
  | cons c rest ih =>
    rw [children_run_cons, overApi_bind]
    exact (child_judged report owner c).bind ih fun _ => rfl

end Creations

theorem code_of_lost {x : Exchange} (lost : x.lost = true) : x.refusal.code = 409 :=
  eq_of_beq (Bool.and_eq_true_iff.mp lost).2

theorem lost_of_code {x : Exchange} (fails : x.failedCreate = true) (code : x.refusal.code = 409) :
    x.lost = true := by
  rw [Exchange.lost, fails, code]
  rfl

theorem Tolerant.ends {report : Report} {talk : List Exchange} {result : Except ReconcileError Report}
    (h : Tolerant report talk result) {before after : List Exchange} {x : Exchange}
    (split : talk = before ++ x :: after) (fails : x.failedCreate = true) :
    (x.lost = true → after ≠ []) ∧
      (x.lost = false → after = [] ∧ ∃ object, result = .error (.platform object (.refused x.refusal))) := by
  have inside {talk : List Exchange} (settled : ∀ x ∈ talk, x.failedCreate = x.lost) (hx : x ∈ talk) :
      x.lost = true := (settled x hx).symm.trans fails
  have here : x ∈ talk := split ▸ List.mem_append_right _ List.mem_cons_self
  have further (went : WentOn talk) (lost : x.lost = true) : after ≠ [] := by
    rintro rfl
    have last : x ∈ talk.getLast? := by
      rw [split, List.getLast?_append]
      rfl
    cases lost.symm.trans (went x last)
  cases h with
  | passed settled went _ =>
    refine ⟨further went, fun foreign => ?_⟩
    cases foreign.symm.trans (inside settled here)
  | failed settled went =>
    refine ⟨further went, fun foreign => ?_⟩
    cases foreign.symm.trans (inside settled here)
  | @refused talk y object settled fails' foreign =>
    rcases List.eq_nil_or_concat after with rfl | ⟨more, z, rfl⟩
    · obtain ⟨_, same⟩ := List.append_inj' split rfl
      cases same
      refine ⟨fun lost => ?_, fun _ => ⟨rfl, object, rfl⟩⟩
      cases lost.symm.trans foreign
    · refine ⟨fun _ => by simp, fun unlost => ?_⟩
      have regrouped : talk ++ [y] = (before ++ x :: more) ++ [z] := by rw [split]; simp
      obtain ⟨rfl, _⟩ := List.append_inj' regrouped rfl
      have earlier : x ∈ before ++ x :: more := List.mem_append_right _ List.mem_cons_self
      cases unlost.symm.trans (inside settled earlier)

theorem Tolerant.counts {report final : Report} {talk : List Exchange}
    (h : Tolerant report talk (.ok final)) :
    final.raced = report.raced + talk.countP Exchange.failedCreate := by
  cases h with
  | passed settled _ raced =>
    rw [raced]
    refine congrArg _ (List.countP_congr fun x hx => ?_)
    rw [settled x hx]

/-- Over a server, a refused creation ends the pass exactly when its code is not 409, whatever reason the
server gives, and a pass that ends well counts every refused creation as raced. -/
theorem refused_creation_ends_unless_409 {σ : Type}
    (handle : (r : Api.Calls.Request) → σ → Api.Calls.Answer r × σ) (s : σ) (owner : OwnerReference)
    (set : ChildSet) :
    let pass := overApi (converge owner set).run
    let talk := pass.exchanges handle s
    let result := (pass.run handle s).value
    (∀ (before after : List Exchange) (x : Exchange), talk = before ++ x :: after →
      x.failedCreate = true → (x.refusal.code = 409 → after ≠ []) ∧
        (x.refusal.code ≠ 409 →
          after = [] ∧ ∃ object, result = .error (.platform object (.refused x.refusal)))) ∧
    ∀ report, result = .ok report → report.raced = talk.countP Exchange.failedCreate := by
  intro pass talk result
  have tolerant : Tolerant {} talk result := children_judged {} owner set.toList s
  refine ⟨fun before after x split fails => ?_, fun report ended => ?_⟩
  · obtain ⟨goes, stops⟩ := tolerant.ends split fails
    refine ⟨fun code => goes (lost_of_code fails code), fun other => stops ?_⟩
    exact Bool.eq_false_iff.mpr fun lost => other (code_of_lost lost)
  · rw [ended] at tolerant
    exact tolerant.counts.trans (Nat.zero_add _)

def refusingAccounts (code : Nat) (reason : String) : Server where
  objects := ∅
  counter := 0
  rules := [{
    method := .post
    path := "/api/v1/namespaces/team/serviceaccounts"
    response := Server.refuse code reason "no account"
    once := false }]

def gatewayPass : Api.Action (Except ReconcileError Report) :=
  overApi (converge (Round.ofGateway "lab" "1").owner (Round.ofGateway "lab" "1").set).run

/-- The pass ends with the account that an overloaded server refuses. Where the refusal says conflict, it
ends well and counts it. -/
theorem overloaded_server_ends_the_pass :
    (∃ (before : List Exchange) (x : Exchange),
      gatewayPass.exchanges Server.handle (refusingAccounts 503 "ServiceUnavailable") = before ++ [x] ∧
        x.failedCreate = true ∧ x.refusal.code ≠ 409 ∧ ∃ object,
          (gatewayPass.run Server.handle (refusingAccounts 503 "ServiceUnavailable")).value =
            .error (.platform object (.refused x.refusal))) ∧
    ∃ report, (gatewayPass.run Server.handle (refusingAccounts 409 "Conflict")).value = .ok report ∧
      report.raced = (gatewayPass.exchanges Server.handle (refusingAccounts 409 "Conflict")).countP
        Exchange.failedCreate := by
  have ends (s : Server) := refused_creation_ends_unless_409 Server.handle s
    (Round.ofGateway "lab" "1").owner (Round.ofGateway "lab" "1").set
  constructor
  · have found : ((gatewayPass.exchanges Server.handle (refusingAccounts 503 "ServiceUnavailable")).getLast?.any
        fun x => Exchange.failedCreate x && (Exchange.refusal x).code != 409) = true := by decide +kernel
    obtain ⟨x, last, checked⟩ := (Option.any_eq_true _ _).mp found
    obtain ⟨fails, code⟩ := Bool.and_eq_true_iff.mp checked
    have split := (List.dropLast_append_getLast? x last).symm
    have other : (Exchange.refusal x).code ≠ 409 := by simpa using code
    exact ⟨_, x, split, fails, other, (((ends _).1 _ [] x split fails).2 other).2⟩
  · have well : (gatewayPass.run Server.handle (refusingAccounts 409 "Conflict")).value.toOption.isSome =
        true := by decide +kernel
    cases ended : (gatewayPass.run Server.handle (refusingAccounts 409 "Conflict")).value with
    | error e =>
      rw [ended] at well
      cases well
    | ok report => exact ⟨report, rfl, (ends _).2 report ended⟩

/-- A conflict that is no lost race passes for one: the pass ends well, one creation counts as raced, and
the account was never stored. -/
theorem conflict_passes_for_a_lost_race :
    (∃ x : Exchange, x ∈ gatewayPass.exchanges Server.handle (refusingAccounts 409 "Conflict") ∧
      x.failedCreate = true ∧ x.refusal.reason = "Conflict") ∧
    (∃ report, (gatewayPass.run Server.handle (refusingAccounts 409 "Conflict")).value = .ok report ∧
      report.raced = 1 ∧ report.created = 3) ∧
    (gatewayPass.run Server.handle (refusingAccounts 409 "Conflict")).state.object?
      "/api/v1/namespaces/team/serviceaccounts/lab" = none := by
  have ran : (gatewayPass.run Server.handle (refusingAccounts 409 "Conflict")).value.toOption.any
      (fun report => report.raced == 1 && report.created == 3) = true ∧
      (gatewayPass.run Server.handle (refusingAccounts 409 "Conflict")).state.object?
        "/api/v1/namespaces/team/serviceaccounts/lab" = none := by decide +kernel
  refine ⟨?_, ?_, ran.2⟩
  · have found : ((gatewayPass.exchanges Server.handle (refusingAccounts 409 "Conflict")).any
        fun x => Exchange.failedCreate x && (Exchange.refusal x).reason == "Conflict") = true := by
      decide +kernel
    obtain ⟨x, made, checked⟩ := List.any_eq_true.mp found
    obtain ⟨fails, reason⟩ := Bool.and_eq_true_iff.mp checked
    exact ⟨x, made, fails, eq_of_beq reason⟩
  · have counted := ran.1
    cases ended : (gatewayPass.run Server.handle (refusingAccounts 409 "Conflict")).value with
    | error e =>
      rw [ended] at counted
      cases counted
    | ok report =>
      rw [ended] at counted
      obtain ⟨raced, created⟩ := Bool.and_eq_true_iff.mp counted
      exact ⟨report, rfl, eq_of_beq raced, eq_of_beq created⟩

end Converge

end JupyterWorkloads
