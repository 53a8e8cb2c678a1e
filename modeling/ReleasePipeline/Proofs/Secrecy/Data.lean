import ReleasePipeline.Command.Project
import ReleasePipeline.Pipeline.Backend
import ReleasePipeline.Proofs.Publish.Routing

/-
  This file defines when two things that a run handles differ
  in their secrets and in nothing else.  What becomes of them
  then differs in its secrets only: two plans of one
  configuration, the credentials that are selected, the
  targets that a version is routed to, and the calls and
  requests that are made with them.

  Key definitions include:
    * `Environment.SetsAlike`, `Environment.Counterparts`
    * `Except.Alike`
    * `SigningSources.Alike`, `ChannelRouter.Alike`
    * `ReleasePlan.Alike`
    * `Credential.Alike`, `PublishTarget.Alike`
    * `Invocation.Alike`, `WebRequest.Alike`, `Call.Alike`

  Main declarations:
    * `Environment.SetsAlike.secret?`
    * `SigningSources.Alike.select`
    * `ChannelRouter.Alike.route`
    * `Config.alike_resolve`
    * `Project.alike_plan`
    * `Invocation.Alike.withoutInput_eq`
-/

------------------------------------------------------------
-- Environments
------------------------------------------------------------

namespace ReleasePipeline

namespace Environment

variable {env₁ env₂ : Environment}

/- The same variables are set to texts that are not empty. -/
def SetsAlike (env₁ env₂ : Environment) : Prop :=
  ∀ name, (∃ value, env₁.Sets name value) ↔
    ∃ value, env₂.Sets name value

/- What one variable holds in each of two environments. -/
def Counterparts
    (env₁ env₂ : Environment)
    (s t : Secret) : Prop :=
  ∃ name, env₁.Sets name s.expose ∧ env₂.Sets name t.expose

theorem SetsAlike.refl (env : Environment) : SetsAlike env env :=
  fun _ => Iff.rfl

/- In one environment a variable holds one text. -/
theorem eq_of_counterparts
    {env : Environment}
    (s t : Secret)
    (hSecrets : Counterparts env env s t) :
    s = t := by
  rcases hSecrets with ⟨name, ⟨hFirst, -⟩, ⟨hSecond, -⟩⟩
  rw [hFirst] at hSecond
  cases s
  cases t
  cases hSecond
  rfl

/- A variable holds a secret in both environments or in none. -/
theorem SetsAlike.secret?
    (hSets : SetsAlike env₁ env₂)
    (name : String) :
    Option.Rel (Counterparts env₁ env₂) (Config.secret? env₁ name)
      (Config.secret? env₂ name) := by
  cases hFirst : Config.secret? env₁ name with
  | none =>
      cases hSecond : Config.secret? env₂ name with
      | none => exact .none
      | some t =>
          have hSet := Config.secret?_eq_some_iff.mp hSecond
          rcases (hSets name).mpr ⟨_, hSet⟩ with ⟨value, hValue⟩
          have hSome : Config.secret? env₁ name = some ⟨value⟩ :=
            Config.secret?_eq_some_iff.mpr hValue
          rw [hFirst] at hSome
          cases hSome
  | some s =>
      have hSet := Config.secret?_eq_some_iff.mp hFirst
      rcases (hSets name).mp ⟨_, hSet⟩ with ⟨value, hValue⟩
      have hSome : Config.secret? env₂ name = some ⟨value⟩ :=
        Config.secret?_eq_some_iff.mpr hValue
      rw [hSome]
      exact .some ⟨name, hSet, hValue⟩

end Environment

------------------------------------------------------------
-- Results
------------------------------------------------------------

namespace Except

variable {ε ε' α β γ δ : Type}
variable {V : α → β → Prop} {V' : γ → δ → Prop}

/- Two results: the same failure, or values that are related. -/
inductive Alike (V : α → β → Prop) : Except ε α → Except ε β → Prop where
  | ok
      {x : α}
      {y : β}
      (hValue : V x y) :
      Alike V (.ok x) (.ok y)
  | error (f : ε) : Alike V (.error f) (.error f)

theorem alike_self (r : Except ε α) : Alike Eq r r := by
  cases r with
  | ok x => exact .ok rfl
  | error f => exact .error f

theorem Alike.eq
    {r s : Except ε α}
    (hAlike : Alike Eq r s) :
    r = s := by
  cases hAlike with
  | ok hValue => rw [hValue]
  | error f => rfl

theorem Alike.imp
    {V' : α → β → Prop}
    {r : Except ε α}
    {s : Except ε β}
    (hAlike : Alike V r s)
    (hValues : ∀ x y, V x y → V' x y) :
    Alike V' r s := by
  cases hAlike with
  | ok hValue => exact .ok (hValues _ _ hValue)
  | error f => exact .error f

theorem Alike.mapError
    {r : Except ε α}
    {s : Except ε β}
    (hAlike : Alike V r s)
    (words : ε → ε') :
    Alike V (r.mapError words) (s.mapError words) := by
  cases hAlike with
  | ok hValue => exact .ok hValue
  | error f => exact .error (words f)

theorem Alike.bind
    {r : Except ε α}
    {s : Except ε β}
    {k : α → Except ε γ}
    {l : β → Except ε δ}
    (hFirst : Alike V r s)
    (hSecond : ∀ x y, V x y → Alike V' (k x) (l y)) :
    Alike V' (r >>= k) (s >>= l) := by
  cases hFirst with
  | ok hValue => exact hSecond _ _ hValue
  | error f => exact .error f

end Except

------------------------------------------------------------
-- What Holds Secrets
------------------------------------------------------------

/-
  From here on, the secrets of two runs correspond to each
  other by some relation.
-/
variable {S : Secret → Secret → Prop}

/- Two sources whose secrets correspond. -/
inductive SigningSources.Alike (S : Secret → Secret → Prop) :
    SigningSources → SigningSources → Prop where
  | mk
      (sources : SigningSources)
      {key key' passphrase passphrase' : Option Secret}
      (hKey : Option.Rel S key key')
      (hPassphrase : Option.Rel S passphrase passphrase') :
      Alike S { sources with key := key, passphrase := passphrase }
        { sources with key := key', passphrase := passphrase' }

/- Two credentials of one kind whose secrets correspond. -/
inductive Credential.Alike (S : Secret → Secret → Prop) :
    Credential → Credential → Prop where
  | inMemory
      {key key' passphrase passphrase' : Secret}
      (hKey : S key key')
      (hPassphrase : S passphrase passphrase')
      (program : String) :
      Alike S (.inMemory key passphrase program)
        (.inMemory key' passphrase' program)
  | agent (key : AgentKey) : Alike S (.agent key) (.agent key)

/- Two repositories whose credentials correspond. -/
inductive Endpoint.Alike (S : Secret → Secret → Prop) :
    Endpoint → Endpoint → Prop where
  | mk
      (e : Endpoint)
      {username username' password password' : Option Secret}
      (hUsername : Option.Rel S username username')
      (hPassword : Option.Rel S password password') :
      Alike S { e with username := username, password := password }
        { e with username := username', password := password' }

/- Two targets whose credentials correspond. -/
inductive PublishTarget.Alike (S : Secret → Secret → Prop) :
    PublishTarget → PublishTarget → Prop where
  | mk
      (target : PublishTarget)
      {username username' password password' : Secret}
      (hUsername : S username username')
      (hPassword : S password password') :
      Alike S
        { target with username := username, password := password }
        { target with username := username', password := password' }

/- The same markers and repositories that are alike. -/
inductive ChannelRouter.Alike (S : Secret → Secret → Prop) :
    ChannelRouter → ChannelRouter → Prop where
  | mk
      (markers : List String)
      {snapshot snapshot' release release' : Endpoint}
      (hSnapshot : Endpoint.Alike S snapshot snapshot')
      (hRelease : Endpoint.Alike S release release') :
      Alike S
        { markers := markers, snapshot := snapshot, release := release }
        { markers := markers, snapshot := snapshot'
          release := release' }

/- Two plans that differ in secrets which correspond. -/
structure ReleasePlan.Alike
    (S : Secret → Secret → Prop)
    (plan plan' : ReleasePlan) : Prop where
  root : plan.root = plan'.root
  version : plan.version = plan'.version
  metadata : plan.metadata = plan'.metadata
  lockSnapshot : plan.lockSnapshot = plan'.lockSnapshot
  quality : plan.quality = plan'.quality
  artifacts : plan.artifacts = plan'.artifacts
  timeout : plan.timeout = plan'.timeout
  signing : SigningSources.Alike S plan.signing plan'.signing
  router : ChannelRouter.Alike S plan.router plan'.router

/- The same credential is selected, or none for the same reason. -/
theorem SigningSources.Alike.select
    {s s' : SigningSources}
    (hAlike : SigningSources.Alike S s s') :
    Except.Alike (Credential.Alike S) s.select s'.select := by
  rcases hAlike with ⟨sources, hKey, hPassphrase⟩
  unfold SigningSources.select
  cases hAgent : sources.agent with
  | none =>
      cases hKey with
      | none => exact .error _
      | some hKey =>
          cases hPassphrase with
          | none => exact .error _
          | some hPassphrase => exact .ok (.inMemory hKey hPassphrase _)
  | some agent =>
      cases hKey with
      | none => exact .ok (.agent agent)
      | some hKey =>
          cases hPassphrase with
          | none => exact .ok (.agent agent)
          | some hPassphrase => exact .ok (.inMemory hKey hPassphrase _)

theorem Credential.Alike.mode_eq
    {c c' : Credential}
    (hAlike : Credential.Alike S c c') :
    c.mode = c'.mode := by
  cases hAlike <;> rfl

/- The same variables are missing. -/
theorem Endpoint.Alike.missing_eq
    {e e' : Endpoint}
    (hAlike : Endpoint.Alike S e e') :
    e.missing = e'.missing := by
  rcases hAlike with ⟨e, hUsername, hPassword⟩
  unfold Endpoint.missing
  cases hUsername <;> cases hPassword <;> rfl

theorem Endpoint.Alike.shown_eq
    {e e' : Endpoint}
    (hAlike : Endpoint.Alike S e e') :
    e.url = e'.url ∧ e.usernameEnv = e'.usernameEnv ∧
      e.passwordEnv = e'.passwordEnv := by
  rcases hAlike with ⟨e, -, -⟩
  exact ⟨rfl, rfl, rfl⟩

theorem PublishTarget.Alike.url_eq
    {target target' : PublishTarget}
    (hAlike : PublishTarget.Alike S target target') :
    target.url = target'.url := by
  rcases hAlike with ⟨target, -, -⟩
  rfl

namespace ChannelRouter.Alike

variable {r r' : ChannelRouter}

theorem classify_eq
    (hAlike : ChannelRouter.Alike S r r')
    (v : Version) :
    r.classify v = r'.classify v := by
  rcases hAlike with ⟨markers, -, -⟩
  rfl

theorem endpoint
    (hAlike : ChannelRouter.Alike S r r')
    (channel : Channel) :
    Endpoint.Alike S (r.endpoint channel) (r'.endpoint channel) := by
  rcases hAlike with ⟨markers, hSnapshot, hRelease⟩
  cases channel with
  | snapshot => exact hSnapshot
  | release => exact hRelease

/- A version goes to the same place, or fails for the same reason. -/
theorem route
    (hAlike : ChannelRouter.Alike S r r')
    (v : Version) :
    Except.Alike (PublishTarget.Alike S) (r.route v) (r'.route v) := by
  have hEndpoint := hAlike.endpoint (r.classify v)
  unfold ChannelRouter.route
  rw [← hAlike.classify_eq v]
  dsimp only
  generalize r.endpoint (r.classify v) = e at hEndpoint ⊢
  generalize r'.endpoint (r.classify v) = e' at hEndpoint ⊢
  rw [hEndpoint.missing_eq]
  generalize e'.missing = missing
  rcases hEndpoint with ⟨e, hUsername, hPassword⟩
  cases hUsername with
  | none => exact .error _
  | some hUsername =>
      cases hPassword with
      | none => exact .error _
      | some hPassword =>
          let target : PublishTarget :=
            { channel := r.classify v, url := e.url
              username := ⟨""⟩, password := ⟨""⟩ }
          exact .ok (.mk target hUsername hPassword)

end ChannelRouter.Alike

------------------------------------------------------------
-- Plans
------------------------------------------------------------

variable {env₁ env₂ : Environment}

open Environment (Counterparts SetsAlike)

theorem EndpointConfig.alike_resolve
    (hSets : SetsAlike env₁ env₂)
    (e : EndpointConfig) :
    Endpoint.Alike (Counterparts env₁ env₂) (e.resolve env₁)
      (e.resolve env₂) :=
  .mk (e.resolve env₁) (hSets.secret? _) (hSets.secret? _)

/- A configuration has the same plan, up to secrets, or none. -/
theorem Config.alike_resolve
    (hSets : SetsAlike env₁ env₂)
    (c : Config)
    (root : String)
    (asked package : Option String) :
    Except.Alike (ReleasePlan.Alike (Counterparts env₁ env₂))
      (c.resolve root asked package env₁)
      (c.resolve root asked package env₂) := by
  have hPlan (version : Version) (rules : RuleSettings) :
      ReleasePlan.Alike (Counterparts env₁ env₂)
        (c.planFor root env₁ version rules)
        (c.planFor root env₂ version rules) :=
    { root := rfl, version := rfl, metadata := rfl
      lockSnapshot := rfl, quality := rfl, artifacts := rfl
      timeout := rfl
      signing :=
        .mk (c.signingSources env₁) (hSets.secret? _) (hSets.secret? _)
      router :=
        .mk c.channels.markers (EndpointConfig.alike_resolve hSets _)
          (EndpointConfig.alike_resolve hSets _) }
  unfold resolve
  cases c.versionText? asked package with
  | none => exact .error _
  | some text =>
      apply (Except.alike_self (Version.ofText text)).bind
      rintro version _ rfl
      apply (Except.alike_self c.quality.compile).bind
      rintro rules _ rfl
      exact .ok (hPlan version rules)

theorem Project.alike_plan
    (hSets : SetsAlike env₁ env₂)
    (p : Project)
    (asked : Option String) :
    Except.Alike (ReleasePlan.Alike (Counterparts env₁ env₂))
      (p.plan asked env₁) (p.plan asked env₂) := by
  unfold plan
  apply (Except.alike_self p.requireConfig).bind
  rintro c _ rfl
  exact c.alike_resolve hSets _ _ _

------------------------------------------------------------
-- Calls and Requests
------------------------------------------------------------

/-
  Two programs that are started alike: the same program in the
  same way, without any input, or an import or a signature
  whose secrets correspond.
-/
inductive Invocation.Alike (S : Secret → Secret → Prop) :
    Invocation → Invocation → Prop where
  | bare
      {call : Invocation}
      (hInput : call.input = none) :
      Alike S call call
  | importing
      (program : String)
      {key key' : Secret}
      (hKey : S key key') :
      Alike S (Keyring.importCall program key)
        (Keyring.importCall program key')
  | signing
      (program : String)
      (data : Bytes)
      {passphrase passphrase' : Secret}
      (hPassphrase : S passphrase passphrase') :
      Alike S ((Keyring.temporary passphrase).signCall program data)
        ((Keyring.temporary passphrase').signCall program data)

/- Two requests whose credentials correspond. -/
inductive WebRequest.Alike (S : Secret → Secret → Prop) :
    WebRequest → WebRequest → Prop where
  | mk
      (request : WebRequest)
      {username username' password password' : Secret}
      (hUsername : S username username')
      (hPassword : S password password') :
      Alike S
        { request with username := username, password := password }
        { request with username := username', password := password' }

/- Two calls of a release whose secrets correspond. -/
inductive Call.Alike (S : Secret → Secret → Prop) :
    Call → Call → Prop where
  | graph : Alike S .graph .graph
  | signer
      {c c' : Credential}
      (hCredential : Credential.Alike S c c') :
      Alike S (.signer c) (.signer c')
  | sign (data : Bytes) : Alike S (.sign data) (.sign data)
  | repository
      {target target' : PublishTarget}
      (hTarget : PublishTarget.Alike S target target')
      (timeout : Nat) :
      Alike S (.repository target timeout) (.repository target' timeout)
  | put
      (path : String)
      (bytes : Bytes) :
      Alike S (.put path bytes) (.put path bytes)
  | get (path : String) : Alike S (.get path) (.get path)

/- What a program is handed openly: all but its input. -/
def Invocation.withoutInput (call : Invocation) : Invocation :=
  { call with input := none }

/- Programs get their secrets as input and in no other way. -/
theorem Invocation.Alike.withoutInput_eq
    {call call' : Invocation}
    (hAlike : Invocation.Alike S call call') :
    call.withoutInput = call'.withoutInput := by
  cases hAlike <;> rfl

/- Calls with the same secrets are the same. -/
theorem Invocation.Alike.eq
    {call call' : Invocation}
    (hAlike : Invocation.Alike S call call')
    (hSecrets : ∀ s t, S s t → s = t) :
    call = call' := by
  cases hAlike with
  | bare hInput => rfl
  | importing program hKey => rw [hSecrets _ _ hKey]
  | signing program data hPassphrase =>
      rw [hSecrets _ _ hPassphrase]

theorem WebRequest.Alike.eq
    {request request' : WebRequest}
    (hAlike : WebRequest.Alike S request request')
    (hSecrets : ∀ s t, S s t → s = t) :
    request = request' := by
  cases hAlike with
  | mk request hUsername hPassword =>
      rw [hSecrets _ _ hUsername, hSecrets _ _ hPassword]

/- The file that a call stores, if it does. -/
def Call.put? : Call → Option (String × Bytes)
  | .put path bytes => some (path, bytes)
  | _ => none

theorem Call.Alike.put?_eq
    {call call' : Call}
    (hAlike : Call.Alike S call call') :
    call.put? = call'.put? := by
  cases hAlike <;> rfl

end ReleasePipeline
