import JupyterWorkloads.Proofs.Pod.Completion

/-! How the server of a notebook is started. A notebook that can be run gets one deployment, from its own pod
template or from the default one; behind the arguments of the template stand the flags for its gateway and
for its login. A login that is disabled leaves nothing of the secrets of the notebook in them. -/
namespace JupyterWorkloads.Notebook

open Generating

/-- What a notebook needs: a template or a gateway, a container in its template, a name for its gateway. -/
structure Runnable (n : Notebook) : Prop where
  source : n.spec.template ≠ none ∨ n.spec.gateway ≠ none
  container : ∀ t, n.spec.template = some t → t.HasContainer
  gateway : ∀ ref, n.spec.gateway = some ref → ∃ name, ref.name = some name ∧ name ≠ ""

/-- The flags for the gateway. A reference means the namespace it gives, or else the one of the notebook. -/
inductive GatewayFlags (n : Notebook) (d : Defaults) : List String → Prop where
  | unset : n.spec.gateway = none → GatewayFlags n d []
  | placed {ref : ObjectReference} {name ns : String} :
    n.spec.gateway = some ref → ref.name = some name → name ≠ "" → ref.ns = some ns → ns ≠ "" →
      GatewayFlags n d ["--gateway-url",
        "http://" ++ name ++ "." ++ ns ++ ":" ++ Text.ofInt d.gatewayPort.toInt]
  | beside {ref : ObjectReference} {name : String} :
    n.spec.gateway = some ref → ref.name = some name → name ≠ "" → ref.ns = none ∨ ref.ns = some "" →
      GatewayFlags n d ["--gateway-url",
        "http://" ++ name ++ "." ++ n.ns ++ ":" ++ Text.ofInt d.gatewayPort.toInt]

/-- The flags for the login. One that is disabled has both flags and neither secret. -/
inductive LoginFlags : Option Auth → List String → Prop where
  | unset : LoginFlags none []
  | disabled {a : Auth} : a.mode = some .disable →
      LoginFlags (some a) ["--NotebookApp.token", "", "--NotebookApp.password", ""]
  | asked {a : Auth} : a.mode ≠ some .disable →
      LoginFlags (some a) ((a.token.toList.flatMap fun token => ["--NotebookApp.token", token]) ++
        a.password.toList.flatMap fun password => ["--NotebookApp.password", password])

/-- The set is one deployment of the server, with the flags behind the arguments of its template. -/
def StartsWith (n : Notebook) (d : Defaults) (flags : List String) (set : ChildSet) : Prop :=
  ∃ o spec first, set.toList = [.deployment o] ∧ o.spec = some spec ∧
    (n.spec.template.getD (defaultTemplate d)).Becomes
      (Labels.selector Label.notebook n.ns n.name) first
      { first.complete with args := some (first.args.getD [] ++ flags) } spec.template

/-- The set is one deployment of the default server: a completed pod with one container, that starts with the
flags from the default image and listens on the default port. -/
def StartsDefault (d : Defaults) (flags : List String) (set : ChildSet) : Prop :=
  ∃ o spec, set.toList = [.deployment o] ∧ o.spec = some spec ∧
    spec.template.spec = some { (default : PodSpec).complete with
      containers := [{ (default : Container).complete with
        args := some ("start-notebook.sh" :: flags)
        image := some d.notebookImage
        imagePullPolicy := some "IfNotPresent"
        name := "notebook"
        ports := some [{
          containerPort := d.notebookPort
          hostPort := none
          name := some "notebook"
          protocol := some "TCP" }] }] }

/-- The notebook without the secrets of its login. Two notebooks that are the same without them differ in
nothing else. -/
def withoutSecrets (n : Notebook) : Notebook :=
  { n with spec := { n.spec with
    auth := n.spec.auth.map fun a => { a with token := none, password := none } } }

def LoginDisabled (n : Notebook) : Prop := ∃ a, n.spec.auth = some a ∧ a.mode = some .disable

variable {n : Notebook} {d : Defaults} {set : ChildSet}

theorem given?_eq_some_iff {s : Option String} {t : String} : given? s = some t ↔ s = some t ∧ t ≠ "" := by
  simp [given?, Option.filter_eq_some_iff]

theorem given?_eq_none_iff {s : Option String} : given? s = none ↔ s = none ∨ s = some "" := by
  cases s with
  | none => simp [given?]
  | some t => by_cases empty : t = "" <;> simp [given?, Option.filter, empty]

theorem gatewayFlags_of_args {args : List String} (given : n.gatewayArgs d = .ok args) :
    GatewayFlags n d args := by
  unfold gatewayArgs at given
  cases referred : n.spec.gateway with
  | none =>
    rw [referred] at given
    cases given
    exact .unset referred
  | some ref =>
    cases named : given? ref.name with
    | none => simp [referred, named] at given
    | some name =>
      simp only [referred, named, Except.ok.injEq] at given
      subst given
      obtain ⟨own, full⟩ := given?_eq_some_iff.mp named
      cases placed : given? ref.ns with
      | none => exact .beside referred own full (given?_eq_none_iff.mp placed)
      | some ns =>
        obtain ⟨space, known⟩ := given?_eq_some_iff.mp placed
        exact .placed referred own full space known

theorem gatewayArgs_ok_iff (n : Notebook) (d : Defaults) : (∃ args, n.gatewayArgs d = .ok args) ↔
    ∀ ref, n.spec.gateway = some ref → ∃ name, ref.name = some name ∧ name ≠ "" := by
  unfold gatewayArgs
  cases n.spec.gateway with
  | none => simp
  | some ref =>
    simp only [Option.some.injEq, forall_eq', ← given?_eq_some_iff]
    cases given? ref.name <;> simp

theorem loginFlags_authArgs (n : Notebook) : LoginFlags n.spec.auth n.authArgs := by
  unfold authArgs
  cases n.spec.auth with
  | none => exact .unset
  | some a =>
    by_cases off : a.mode = some .disable
    · simp only [Auth.args, if_pos off]
      exact .disabled off
    · have asked := LoginFlags.asked off
      simp only [Auth.args, if_neg off]
      cases token : a.token <;> cases password : a.password <;>
        simpa [token, password, tokenFlag, passwordFlag] using asked

theorem hasContainer_default (d : Defaults) : (defaultTemplate d).HasContainer := ⟨_, rfl, nofun⟩

theorem children_ok_iff : (∃ set, n.children d = .ok set) ↔ n.Runnable := by
  constructor
  · rintro ⟨set, given⟩
    obtain ⟨completed, args, complete, pointed, _⟩ := children_cases given
    refine ⟨?_, ?_, (gatewayArgs_ok_iff n d).mp ⟨args, pointed⟩⟩
    · unfold children at given
      split at given
      · cases given
      · next named => simpa [Classical.or_iff_not_imp_left] using named
    · intro t own
      exact (PodTemplate.complete_ok_iff _ _).mp ⟨completed, by simpa [own] using complete⟩
  · intro runnable
    have container : (n.spec.template.getD (defaultTemplate d)).HasContainer := by
      cases own : n.spec.template with
      | none => exact hasContainer_default d
      | some t => exact runnable.container t own
    have named : ¬ (n.spec.template.isNone ∧ n.spec.gateway.isNone) := by
      simpa [Classical.or_iff_not_imp_left] using runnable.source
    obtain ⟨completed, complete⟩ := (PodTemplate.complete_ok_iff _
      (Labels.selector Label.notebook n.ns n.name)).mpr container
    obtain ⟨args, pointed⟩ := (gatewayArgs_ok_iff n d).mpr runnable.gateway
    unfold children
    simp only [if_neg named, complete, pointed, bind, Except.bind]
    exact ⟨_, rfl⟩

theorem startsWith_of_children (given : n.children d = .ok set) :
    ∃ gateway, GatewayFlags n d gateway ∧ n.StartsWith d (gateway ++ n.authArgs) set := by
  obtain ⟨completed, args, complete, pointed, rfl⟩ := children_cases given
  obtain ⟨first, _, becomes⟩ := PodTemplate.becomes_of_complete complete
  refine ⟨args, gatewayFlags_of_args pointed, _, _, first, rfl, rfl, ?_⟩
  have flagged := becomes.mapFirstContainer (n.withFlags args)
  rwa [withFlags, List.append_assoc] at flagged

theorem StartsWith.startsDefault {flags : List String} (starts : n.StartsWith d flags set)
    (bare : n.spec.template = none) : StartsDefault d flags set := by
  obtain ⟨o, spec, first, children, own, becomes⟩ := starts
  rw [bare, Option.getD_none] at becomes
  obtain ⟨_, _, written, listed, pods⟩ := becomes.spec
  cases written
  cases listed
  exact ⟨o, spec, children, own, pods⟩

theorem authArgs_of_disabled (off : n.LoginDisabled) :
    n.authArgs = ["--NotebookApp.token", "", "--NotebookApp.password", ""] := by
  obtain ⟨a, login, off⟩ := off
  simp [authArgs, login, Auth.args, off, tokenFlag, passwordFlag]

theorem children_withoutSecrets (off : n.LoginDisabled) (d : Defaults) :
    n.withoutSecrets.children d = n.children d := by
  obtain ⟨a, login, off⟩ := off
  unfold children
  simp only [withoutSecrets, login, Option.map_some, Auth.args, if_pos off]
  rfl

theorem loginDisabled_withoutSecrets (n : Notebook) : n.withoutSecrets.LoginDisabled ↔ n.LoginDisabled := by
  cases login : n.spec.auth <;> simp [LoginDisabled, withoutSecrets, login]

/-- A notebook gets a deployment exactly when it can be run, and is found invalid otherwise. The deployment
runs the completed template with the flags for the gateway and the login behind the arguments of its first
container; without a template that is the default server. With the login disabled the secrets make no
difference, and the last flags are empty. -/
theorem server_starts_with_flags (n : Notebook) (d : Defaults) :
    ((∃ set, n.children d = .ok set) ↔ n.Runnable) ∧
    (¬ n.Runnable → ∃ reason, n.children d = .error reason ∧
      ∀ r, (resolve r ((Parent.notebook n).generate d)).value = .error (.validation reason)) ∧
    (∀ set, n.children d = .ok set → ∃ gateway login, GatewayFlags n d gateway ∧
      LoginFlags n.spec.auth login ∧ n.StartsWith d (gateway ++ login) set ∧
      (n.spec.template = none → StartsDefault d (gateway ++ login) set)) ∧
    (n.LoginDisabled → ∀ other : Notebook, other.withoutSecrets = n.withoutSecrets →
      other.children d = n.children d ∧ ∀ set, n.children d = .ok set → ∃ gateway,
        n.StartsWith d (gateway ++ ["--NotebookApp.token", "", "--NotebookApp.password", ""]) set) := by
  refine ⟨children_ok_iff, ?_, ?_, ?_⟩
  · intro broken
    cases given : n.children d with
    | ok set => exact absurd (children_ok_iff.mp ⟨set, given⟩) broken
    | error reason =>
      refine ⟨reason, rfl, fun r => ?_⟩
      show (resolve r (ofExcept (n.children d))).value = _
      rw [given]
      rfl
  · intro set given
    obtain ⟨gateway, flags, starts⟩ := startsWith_of_children given
    exact ⟨gateway, n.authArgs, flags, n.loginFlags_authArgs, starts, starts.startsDefault⟩
  · intro off other same
    have others : other.LoginDisabled := by
      rw [← loginDisabled_withoutSecrets, same, loginDisabled_withoutSecrets]
      exact off
    constructor
    · rw [← children_withoutSecrets others, same, children_withoutSecrets off]
    · intro set given
      obtain ⟨gateway, _, starts⟩ := startsWith_of_children given
      exact ⟨gateway, authArgs_of_disabled off ▸ starts⟩

def unlocked (token password : Option String) : Notebook :=
  { Notebook.plain "team" "nb" "2" "lab" with
    spec := { (Notebook.plain "team" "nb" "2" "lab").spec with
      auth := some { mode := some .disable, token := token, password := password }
      template := some {
        metadata := none
        spec := some { (default : PodSpec) with containers := [{ (default : Container) with
          name := "server"
          args := some ["start.sh"] }] } } } }

theorem secrets_leave_no_trace :
    let n := unlocked (some "secret") none
    let other := unlocked none (some "word")
    (∃ set, n.children default = .ok set ∧ other.children default = .ok set ∧ ∃ gateway,
      n.StartsWith default (gateway ++ ["--NotebookApp.token", "", "--NotebookApp.password", ""]) set) ∧
    ∃ reason, (default : Notebook).children default = .error reason := by
  intro n other
  obtain ⟨gets, _, _, hides⟩ := server_starts_with_flags n default
  obtain ⟨_, invalid, _, _⟩ := server_starts_with_flags default default
  have runnable : n.Runnable := by
    refine ⟨.inl nofun, ?_, ?_⟩
    · rintro t ⟨⟩
      exact ⟨_, rfl, nofun⟩
    · rintro ref ⟨⟩
      exact ⟨"lab", rfl, by decide⟩
  have empty : ¬ (default : Notebook).Runnable :=
    fun runnable => runnable.source.elim (absurd rfl) (absurd rfl)
  obtain ⟨set, given⟩ := gets.mpr runnable
  obtain ⟨same, ends⟩ := hides ⟨_, rfl, rfl⟩ other rfl
  obtain ⟨reason, failed, _⟩ := invalid empty
  exact ⟨⟨set, given, same.trans given, ends set given⟩, reason, failed⟩

end JupyterWorkloads.Notebook
