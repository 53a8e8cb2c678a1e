import ReleasePipeline.Proofs.Command.Success
import ReleasePipeline.Proofs.Config.Resolution
import ReleasePipeline.Proofs.Pipeline.ReadBack
import ReleasePipeline.Proofs.Text.Slashes

/-
  This file proves where a version goes.  Its channel depends
  on the markers only, the target on what is configured for
  this channel and on the two variables that are named there;
  neither the other channel nor another variable matters.  A
  release that succeeds is published there, in the directory
  of its version.

  Key definitions include:
    * `ChannelsConfig.endpoint`, `Config.withEndpoint`
    * `Environment.Sets`, `Environment.lacks`
    * `Config.Routes`

  Main declarations:
    * `Config.routes_of_resolve`
    * `Config.route_withEndpoint`
    * `Pipeline.goes_to_route`
    * `Config.routes_by_version`
-/

------------------------------------------------------------
-- Environments
------------------------------------------------------------

namespace ReleasePipeline

namespace Environment

/- A variable is set to a text that is not empty. -/
def Sets
    (env : Environment)
    (name value : String) : Prop :=
  env name = some value ∧ value ≠ ""

/- A variable is unset or empty. -/
def lacks
    (env : Environment)
    (name : String) : Bool :=
  env name == none || env name == some ""

theorem isNone_secret?
    (env : Environment)
    (name : String) :
    (Config.secret? env name).isNone = env.lacks name := by
  rw [Bool.eq_iff_iff, Config.isNone_secret?_iff, lacks,
    Bool.or_eq_true, beq_iff_eq, beq_iff_eq]

end Environment

------------------------------------------------------------
-- Routes
------------------------------------------------------------

/- What is configured for a channel. -/
def ChannelsConfig.endpoint
    (c : ChannelsConfig) : Channel → EndpointConfig
  | .snapshot => c.snapshot
  | .release => c.release

/- The channel that is not the given one. -/
def Channel.other : Channel → Channel
  | .snapshot => .release
  | .release => .snapshot

/- A configuration with another repository for a channel. -/
def Config.withEndpoint
    (c : Config)
    (e : EndpointConfig) : Channel → Config
  | .snapshot => { c with channels := { c.channels with snapshot := e } }
  | .release => { c with channels := { c.channels with release := e } }

/- The variables of a repository that have no credentials. -/
def EndpointConfig.lacking
    (e : EndpointConfig)
    (env : Environment) : List String :=
  [e.usernameEnv, e.passwordEnv].filter env.lacks

theorem EndpointConfig.missing_resolve
    (e : EndpointConfig)
    (env : Environment) :
    (e.resolve env).missing = e.lacking env := by
  unfold Endpoint.missing resolve lacking
  simp only [Environment.isNone_secret?, List.filter_cons,
    List.filter_nil]
  cases env.lacks e.usernameEnv <;> cases env.lacks e.passwordEnv <;> rfl

/- Only its two variables matter to a repository. -/
theorem EndpointConfig.resolve_congr
    {e : EndpointConfig}
    {env env' : Environment}
    (hUser : env' e.usernameEnv = env e.usernameEnv)
    (hPass : env' e.passwordEnv = env e.passwordEnv) :
    e.resolve env' = e.resolve env := by
  unfold resolve Config.secret?
  rw [hUser, hPass]

namespace ChannelRouter

variable {r : ChannelRouter} {v : Version}

theorem classify_eq_snapshot_iff :
    r.classify v = .snapshot ↔
      ∃ marker ∈ r.markers, marker.toList <:+ v.text.toList := by
  unfold classify
  rw [ite_eq_left_iff]
  simp [Text.endsWith]

/- A version is routed when both credentials are there. -/
theorem route_eq_ok_iff {target : PublishTarget} :
    r.route v = .ok target ↔
      ∃ username password,
        (r.endpoint (r.classify v)).username = some username ∧
        (r.endpoint (r.classify v)).password = some password ∧
        target =
          { channel := r.classify v
            url := (r.endpoint (r.classify v)).url
            username, password } := by
  unfold route
  dsimp only
  constructor
  · intro hRoute
    split at hRoute
    · next username password hUser hPass =>
        cases hRoute
        exact ⟨username, password, hUser, hPass, rfl⟩
    · cases hRoute
  · rintro ⟨username, password, hUser, hPass, rfl⟩
    rw [hUser, hPass]

/- Nothing is missing when both credentials are there. -/
theorem missing_eq_nil_iff {e : Endpoint} :
    e.missing = [] ↔
      e.username.isSome = true ∧ e.password.isSome = true := by
  unfold Endpoint.missing
  cases e.username <;> cases e.password <;> simp

/- Otherwise all variables that lack them are named. -/
theorem route_eq_error_iff {f : ReleaseFault} :
    r.route v = .error f ↔
      (r.endpoint (r.classify v)).missing ≠ [] ∧
        f =
          .missingCredentials (r.classify v).name
            (r.endpoint (r.classify v)).missing := by
  unfold route
  dsimp only
  rw [ne_eq, missing_eq_nil_iff]
  constructor
  · intro hRoute
    split at hRoute
    · cases hRoute
    · next hNone =>
        cases hRoute
        refine ⟨?_, rfl⟩
        rintro ⟨hUser, hPass⟩
        rcases Option.isSome_iff_exists.mp hUser with ⟨username, hUser⟩
        rcases Option.isSome_iff_exists.mp hPass with ⟨password, hPass⟩
        exact hNone username password hUser hPass
  · rintro ⟨hMissing, rfl⟩
    split
    · next username password hUser hPass =>
        rw [hUser, hPass] at hMissing
        exact absurd ⟨rfl, rfl⟩ hMissing
    · rfl

/- Only the repository of the version's channel matters. -/
theorem route_congr
    {r' : ChannelRouter}
    (hChannel : r'.classify v = r.classify v)
    (hEndpoint :
      r'.endpoint (r.classify v) = r.endpoint (r.classify v)) :
    r'.route v = r.route v := by
  unfold route
  rw [hChannel]
  dsimp only
  rw [hEndpoint]

end ChannelRouter

namespace Config

variable {c : Config} {root : String}
variable {asked package : Option String}
variable {env : Environment} {plan : ReleasePlan}

/-
  How a version is routed: by its last characters to a
  channel, and by the two variables of this channel to a
  target or to a failure.
-/
structure Routes
    (c : Config)
    (env : Environment)
    (version : Version)
    (channel : Channel)
    (route : Except ReleaseFault PublishTarget) : Prop where
  channel_iff :
    channel = .snapshot ↔
      ∃ marker ∈ c.channels.markers,
        marker.toList <:+ version.text.toList
  ok_iff :
    ∀ target,
      route = .ok target ↔
        target.channel = channel ∧
        Text.WithoutSlashes target.url
          (c.channels.endpoint channel).url ∧
        env.Sets (c.channels.endpoint channel).usernameEnv
          target.username.expose ∧
        env.Sets (c.channels.endpoint channel).passwordEnv
          target.password.expose
  succeeds_iff :
    (∃ target, route = .ok target) ↔
      (∃ username,
        env.Sets (c.channels.endpoint channel).usernameEnv username) ∧
      ∃ password,
        env.Sets (c.channels.endpoint channel).passwordEnv password
  error_iff :
    ∀ f,
      route = .error f ↔
        (c.channels.endpoint channel).lacking env ≠ [] ∧
        f =
          .missingCredentials channel.name
            ((c.channels.endpoint channel).lacking env)

theorem router_endpoint
    (c : Config)
    (env : Environment)
    (channel : Channel) :
    (c.router env).endpoint channel =
      (c.channels.endpoint channel).resolve env := by
  cases channel <;> rfl

theorem endpoint_withEndpoint_other
    (c : Config)
    (e : EndpointConfig)
    (channel : Channel) :
    (c.withEndpoint e channel.other).channels.endpoint channel =
      c.channels.endpoint channel := by
  cases channel <;> rfl

/- A version is routed by what was configured. -/
theorem routes_of_resolve
    (hResolve : c.resolve root asked package env = .ok plan) :
    c.Routes env plan.version (plan.router.classify plan.version)
      (plan.router.route plan.version) := by
  rcases resolve_eq_ok_iff.mp hResolve with
    ⟨version, rules, -, -, rfl⟩
  dsimp only [planFor]
  have hOk :
      ∀ target,
        (c.router env).route version = .ok target ↔
          ∃ username password,
            env.Sets (c.channels.endpoint
              ((c.router env).classify version)).usernameEnv
                username.expose ∧
            env.Sets (c.channels.endpoint
              ((c.router env).classify version)).passwordEnv
                password.expose ∧
            target =
              { channel := (c.router env).classify version
                url :=
                  Text.dropTrailingSlashes (c.channels.endpoint
                    ((c.router env).classify version)).url
                username, password } := by
    intro target
    rw [ChannelRouter.route_eq_ok_iff, router_endpoint]
    simp only [EndpointConfig.resolve, secret?_eq_some_iff]
    rfl
  constructor
  · exact ChannelRouter.classify_eq_snapshot_iff
  · intro target
    rw [hOk, Text.withoutSlashes_iff]
    constructor
    · rintro ⟨username, password, hUser, hPass, rfl⟩
      exact ⟨rfl, rfl, hUser, hPass⟩
    · rintro ⟨hChannel, hUrl, hUser, hPass⟩
      refine ⟨target.username, target.password, hUser, hPass, ?_⟩
      rw [← hUrl, ← hChannel]
  · simp only [hOk]
    constructor
    · rintro ⟨target, username, password, hUser, hPass, -⟩
      exact ⟨⟨_, hUser⟩, _, hPass⟩
    · rintro ⟨⟨username, hUser⟩, password, hPass⟩
      exact ⟨_, ⟨username⟩, ⟨password⟩, hUser, hPass, rfl⟩
  · intro f
    rw [ChannelRouter.route_eq_error_iff, router_endpoint,
      EndpointConfig.missing_resolve]

/-
  Neither another repository for the other channel nor another
  environment with the same two variables changes the route.
-/
theorem route_withEndpoint
    (hResolve : c.resolve root asked package env = .ok plan)
    {channel : Channel}
    (hChannel : plan.router.classify plan.version = channel)
    (e : EndpointConfig)
    {env' : Environment}
    (hUser :
      env' (c.channels.endpoint channel).usernameEnv =
        env (c.channels.endpoint channel).usernameEnv)
    (hPass :
      env' (c.channels.endpoint channel).passwordEnv =
        env (c.channels.endpoint channel).passwordEnv) :
    ∃ plan',
      (c.withEndpoint e channel.other).resolve root asked package
          env' = .ok plan' ∧
        plan'.version = plan.version ∧
        plan'.router.route plan'.version =
          plan.router.route plan.version := by
  rcases resolve_eq_ok_iff.mp hResolve with
    ⟨version, rules, hText, hRules, rfl⟩
  refine ⟨(c.withEndpoint e channel.other).planFor root env' version
    rules, ?_, rfl, ?_⟩
  · rw [resolve_eq_ok_iff]
    refine ⟨version, rules, ?_, ?_, rfl⟩
    · cases channel <;> exact hText
    · cases channel <;> exact hRules
  · dsimp only [planFor] at hChannel ⊢
    apply ChannelRouter.route_congr
    · cases channel <;> rfl
    · rw [hChannel, router_endpoint, router_endpoint,
        endpoint_withEndpoint_other,
        EndpointConfig.resolve_congr hUser hPass]

end Config

------------------------------------------------------------
-- Releases
------------------------------------------------------------

/- The files in the directory of a release have plain names. -/
theorem Layout.StaysInPlace.exists_name
    {l : Layout}
    (hPlain : l.StaysInPlace)
    {path : String}
    (hHolds : l.Holds path) :
    ∃ name,
      '/' ∉ name.toList ∧ path = l.directory ++ "/" ++ name := by
  rcases hHolds with ⟨tail, rfl, hTail⟩
  exact ⟨l.stem ++ tail, (hPlain.isName hTail).no_slash, rfl⟩

/- A release that succeeds is published where it is routed to. -/
theorem Pipeline.goes_to_route
    {σ : Type}
    {h : Host σ}
    {b : Backend σ}
    {p : Pipeline (Recorded σ)}
    {plan : ReleasePlan}
    (hPlan : ofPlan plan h.beside b.recorded = .ok p)
    (hPlain : (Layout.ofMetadata plan.metadata).StaysInPlace)
    {w : World (Recorded σ)}
    {receipt : Receipt}
    (hRun : (p.run w).1 = .ok receipt) :
    ∃ target repository kept,
      plan.router.route plan.version = .ok target ∧
      (∃ u v, b.repository target plan.timeout u =
        (.ok repository, v)) ∧
      (p.run w).2.2.outside.stored = w.outside.stored ++ kept ∧
      receipt.channel = target.channel ∧
      receipt.target = target.url ∧
      receipt.version = plan.metadata.version ∧
      receipt.uploaded = kept.map (fun f => repository.location f.1) ∧
      ∀ f ∈ kept, ∃ name,
        '/' ∉ name.toList ∧
          f.1 = (Layout.ofMetadata plan.metadata).directory ++ "/" ++
            name := by
  rcases ofPlan_fields hPlan with ⟨rfl, -, hBackend, -⟩
  rcases run_faithful hPlan w with
    ⟨-, f, hFailed⟩ | ⟨artifacts, c, s, r, u, hReady, hBefore, hPublish⟩
  · rw [hRun] at hFailed
    cases hFailed
  have hMetadata := hReady.sealed.metadata_eq
  cases hRoute : p.plan.router.route p.plan.version with
  | error f =>
      rcases publish_follows_of_no_target hRoute u _ _ hPublish with
        ⟨made, kept, -, -, -, -, hAll⟩
      exact (hAll receipt hRun).2.2.elim
  | ok target =>
      rcases publish_follows hBackend hRoute r c.mode u _ _ hPublish with
        ⟨made, kept, -, hStored, -, -, hAll⟩
      rcases hAll receipt hRun with
        ⟨-, rfl, repository, hOpened, hReports⟩
      rw [hBefore] at hStored
      refine ⟨target, repository, _, rfl, hOpened, hStored,
        hReports.channel, hReports.target, ?_, ?_, ?_⟩
      · rw [hReports.version, hMetadata]
      · rw [hReports.uploaded, List.map_map]
        rfl
      · intro f hMember
        rcases List.mem_map.mp hMember with ⟨file, hFile, rfl⟩
        rw [← hMetadata] at hPlain ⊢
        exact hPlain.exists_name
          (SignedRelease.holds_of_mem_uploadPlan hFile)

namespace Config

variable {c : Config} {root : String}
variable {asked package : Option String}
variable {env : Environment} {plan : ReleasePlan}

/-
  Where a version goes, from the configuration to the receipt.
  The version is the one asked for, else the configured one,
  else that of the package; everything that is published and
  told about a release agrees with it.
-/
theorem routes_by_version
    {text : String}
    (hParse : parse text = .ok c)
    (hResolve : c.resolve root asked package env = .ok plan) :
    asked.or (c.project.version.or package) =
        some plan.version.text ∧
    ∃ channel,
      c.Routes env plan.version channel
        (plan.router.route plan.version) ∧
      (∀ (e : EndpointConfig) (env' : Environment),
        env' (c.channels.endpoint channel).usernameEnv =
            env (c.channels.endpoint channel).usernameEnv →
        env' (c.channels.endpoint channel).passwordEnv =
            env (c.channels.endpoint channel).passwordEnv →
        ∃ plan',
          (c.withEndpoint e channel.other).resolve root asked package
              env' = .ok plan' ∧
            plan'.version = plan.version ∧
            plan'.router.route plan'.version =
              plan.router.route plan.version) ∧
      ∀ {σ : Type} (h : Host σ) (b : Backend σ)
          (timeout : Option Nat) (timed : ReleasePlan)
          (p : Pipeline (Recorded σ)) (w : World (Recorded σ))
          (receipt : Receipt),
        Program.withTimeout plan timeout = .ok timed →
        Pipeline.ofPlan timed h.beside b.recorded = .ok p →
        (p.run w).1 = .ok receipt →
        ∃ target repository kept,
          plan.router.route plan.version = .ok target ∧
          (∃ u v, b.repository target timed.timeout u =
            (.ok repository, v)) ∧
          (p.run w).2.2.outside.stored = w.outside.stored ++ kept ∧
          receipt.channel = channel ∧
          receipt.target = target.url ∧
          receipt.version = plan.version.text ∧
          receipt.uploaded =
            kept.map (fun f => repository.location f.1) ∧
          ∀ f ∈ kept, ∃ name,
            '/' ∉ name.toList ∧
              f.1 =
                Text.replaceAll c.project.group "." "/" ++ "/" ++
                  c.project.artifact ++ "/" ++ plan.version.text ++
                  "/" ++ name := by
  have hMetadata := metadata_of_resolve hResolve
  have hRoutes := routes_of_resolve hResolve
  constructor
  · rcases resolve_eq_ok_iff.mp hResolve with
      ⟨version, rules, hText, -, rfl⟩
    exact hText
  refine ⟨plan.router.classify plan.version, hRoutes, ?_, ?_⟩
  · intro e env' hUser hPass
    exact route_withEndpoint hResolve rfl e hUser hPass
  · intro σ h b timeout timed p w receipt hTimeout hPlan hRun
    rcases Program.withTimeout_eq_ok hTimeout with ⟨seconds, rfl⟩
    have hPlain :
        (Layout.ofMetadata plan.metadata).StaysInPlace := by
      rw [hMetadata]
      exact staysInPlace hParse plan.version
    rcases Pipeline.goes_to_route hPlan hPlain hRun with
      ⟨target, repository, kept, hRoute, hOpened, hStored, hChannel,
        hTarget, hVersion, hUploaded, hPlaces⟩
    have hSelected := ((hRoutes.ok_iff target).mp hRoute).1
    refine ⟨target, repository, kept, hRoute, hOpened, hStored,
      hChannel.trans hSelected, hTarget, ?_, hUploaded, ?_⟩
    · rw [hVersion, hMetadata]
      rfl
    · dsimp only at hPlaces
      rw [hMetadata] at hPlaces
      exact hPlaces

end Config

namespace Sample

/- Another repository for pre-releases. -/
def elsewhere : EndpointConfig where
  url := "/e/"
  usernameEnv := "a"
  passwordEnv := "b"

/- The environment of the sample with one more variable. -/
def otherEnvironment : Environment :=
  fun name => if name = "k" then some "s" else environment name

end Sample

/-
  The sample is a stable release, whatever is configured for
  pre-releases, and is published as one.
-/
theorem Config.sample_routes_by_version :
    Config.parse Sample.document = .ok Sample.config ∧
    Sample.config.resolve "/p" none none Sample.environment =
      .ok Sample.jsonPlan ∧
    (∃ plan',
      (Sample.config.withEndpoint Sample.elsewhere .snapshot).resolve
          "/p" none none Sample.otherEnvironment = .ok plan' ∧
        plan'.router.route plan'.version =
          Sample.jsonPlan.router.route Sample.jsonPlan.version) ∧
    ∃ receipt,
      (Sample.jsonPipeline.run Sample.jsonWorld).1 = .ok receipt ∧
      receipt.channel = .release ∧
      receipt.target = "/r" ∧
      receipt.version = "1" := by
  refine ⟨Sample.parse_document, Sample.resolve_config, ?_⟩
  rcases routes_by_version Sample.parse_document
      Sample.resolve_config with
    ⟨-, channel, hRoutes, hOther, hRelease⟩
  have hChannel : channel = .release := by
    cases channel with
    | snapshot =>
        rcases hRoutes.channel_iff.mp rfl with ⟨marker, hMarker, hEnds⟩
        have hText : marker = "-S" := List.mem_singleton.mp hMarker
        subst hText
        revert hEnds
        decide
    | release => rfl
  subst hChannel
  constructor
  · rcases hOther Sample.elsewhere Sample.otherEnvironment rfl rfl with
      ⟨plan', hResolve, -, hRoute⟩
    exact ⟨plan', hResolve, hRoute⟩
  · rcases Sample.run_jsonPipeline with ⟨receipt, hRun⟩
    have hPlan :
        Pipeline.ofPlan Sample.jsonPlan Sample.host.beside
          Sample.backend.recorded = .ok Sample.jsonPipeline := rfl
    rcases hRelease Sample.host Sample.backend none Sample.jsonPlan
        Sample.jsonPipeline Sample.jsonWorld receipt rfl hPlan hRun with
      ⟨target, repository, kept, hRoute, -, -, hStable, hTarget,
        hVersion, -, -⟩
    cases hRoute
    exact ⟨receipt, hRun, hStable, hTarget, hVersion⟩

end ReleasePipeline
