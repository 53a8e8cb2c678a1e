import ReleasePipeline.Proofs.Config.Names
import ReleasePipeline.Proofs.Pipeline.Causes
import ReleasePipeline.Proofs.Publish.Routing
import ReleasePipeline.Proofs.Quality.Gate

/-
  This file proves what the checks of a configuration are
  good for.  They fail with a fault of the configuration, or
  because a pattern cannot be read.  Once they have passed,
  every pattern can be read, so that the rules are compiled
  and nothing but its version keeps a release from a plan.

  Key definitions include:
    * `Config.checks`
    * `Config.Unreadable`
    * `Config.Versioned`

  Main declarations:
    * `Config.validate_eq_checkAll`
    * `Config.failsOnly_validate`
    * `Config.exists_compile`
    * `Config.resolve_eq_error_iff`
    * `Config.resolves_by_version`
-/

------------------------------------------------------------
-- Lists of Checks
------------------------------------------------------------

namespace ReleasePipeline

namespace Checks

/- The first of several checks is made before the others. -/
theorem checkAll_id_cons
    (r : Except Fault Unit)
    (rs : List (Except Fault Unit)) :
    checkAll id (r :: rs) = r >>= fun _ => checkAll id rs := by
  cases r <;> rfl

/- No check is made after the last one. -/
theorem bind_checkAll_nil (r : Except Fault Unit) :
    (r >>= fun _ => checkAll id []) = r := by
  cases r <;> rfl

/- Checks fail in the ways in which one of them does. -/
theorem failsOnly_checkAll
    {α : Type}
    {check : α → Except Fault Unit}
    {as : List α}
    {kinds : Fault → Prop}
    (hEach : ∀ a ∈ as, Except.FailsOnly (check a) kinds) :
    Except.FailsOnly (checkAll check as) kinds := by
  induction as with
  | nil => exact Except.failsOnly_ok () kinds
  | cons a as ih =>
      rcases List.forall_mem_cons.mp hEach with ⟨hFirst, hRest⟩
      unfold checkAll
      cases hCheck : check a with
      | ok u => exact ih hRest
      | error f => exact Except.failsOnly_error (hFirst f hCheck)

theorem failsOnly_ensure
    {kinds : Fault → Prop}
    {f : Fault}
    (hKind : kinds f)
    (condition : Bool) :
    Except.FailsOnly (ensure condition (.error f)) kinds := by
  cases condition with
  | true => exact Except.failsOnly_ok () kinds
  | false => exact Except.failsOnly_error hKind

end Checks

/- A pattern is checked by reading it and keeping nothing of it. -/
theorem withContext_map_eq_ok_iff
    {α : Type}
    {context : String}
    {r : Except Fault α} :
    withContext context (r.map fun _ => ()) = .ok () ↔
      ∃ x, r = .ok x := by
  cases r with
  | error f => exact ⟨nofun, nofun⟩
  | ok x => exact ⟨fun _ => ⟨x, rfl⟩, fun _ => rfl⟩

theorem failsOnly_withContext_map
    {α : Type}
    {context : String}
    {r : Except Fault α}
    {kinds : Fault → Prop}
    (hKind : ∀ f, r = .error f → kinds (f.withContext context)) :
    Except.FailsOnly (withContext context (r.map fun _ => ()))
      kinds := by
  cases r with
  | error f => exact Except.failsOnly_error (hKind f rfl)
  | ok x => exact Except.failsOnly_ok () kinds

------------------------------------------------------------
-- The Checks of a Configuration
------------------------------------------------------------

/- A fault that only says what is wrong with a configuration. -/
def Fault.BlamesConfig (f : Fault) : Prop :=
  ∃ cause, f = .config cause

namespace Config

/- The checks of a configuration, in their order. -/
def checks (c : Config) : List (Except Fault Unit) :=
  [checkGroup c, checkArtifact c, checkRuleset c, checkLineLength c,
    checkSources c,
    Checks.checkAll checkSource c.quality.sources,
    Checks.checkAll checkSuppression c.quality.suppressions,
    Checks.checkAll checkForbidden c.quality.forbiddenPatterns,
    checkMarkers c,
    checkPresent "channels.snapshot.url" c.channels.snapshot.url,
    checkPresent "channels.release.url" c.channels.release.url,
    checkTimeout c,
    checkPresent "artifacts.binary.path" c.artifacts.binary.path,
    checkPresent "artifacts.sources.path" c.artifacts.sources.path,
    checkPresent "artifacts.docs.path" c.artifacts.docs.path]

theorem validate_eq_checkAll (c : Config) :
    validate c = Checks.checkAll id c.checks := by
  simp only [checks, Checks.checkAll_id_cons,
    Checks.bind_checkAll_nil]
  rfl

theorem validate_eq_ok_iff {c : Config} :
    validate c = .ok () ↔ ∀ check ∈ c.checks, check = .ok () := by
  rw [validate_eq_checkAll, Checks.checkAll_eq_ok_iff]
  rfl

/-
  The failure to read a pattern of a configuration, with the
  place of the pattern as its context.
-/
inductive Unreadable (c : Config) : Fault → Prop where
  | source
      {pattern : String}
      {f : Fault}
      (hMember : pattern ∈ c.quality.sources)
      (hRead : readGlob pattern = .error f) :
      Unreadable c
        (f.withContext s!"quality.sources entry '{pattern}'")
  | suppression
      {s : Suppression}
      {f : Fault}
      (hMember : s ∈ c.quality.suppressions)
      (hRead : readGlob s.files = .error f) :
      Unreadable c
        (f.withContext s!"suppression for rule '{s.rule}'")
  | forbidden
      {pattern : String}
      {f : Fault}
      (hMember : pattern ∈ c.quality.forbiddenPatterns)
      (hRead : readForbidden pattern = .error f) :
      Unreadable c
        (f.withContext s!"quality.forbidden_patterns entry '{pattern}'")

/- A configuration is refused for itself or for a pattern of it. -/
theorem failsOnly_validate (c : Config) :
    Except.FailsOnly (validate c)
      fun f => f.BlamesConfig ∨ c.Unreadable f := by
  have hEnsure (condition : Bool) (cause : ConfigFault) :
      Except.FailsOnly
        (Checks.ensure condition (.error (.config cause)))
        fun f => f.BlamesConfig ∨ c.Unreadable f :=
    Checks.failsOnly_ensure (.inl ⟨cause, rfl⟩) condition
  have hSources :
      Except.FailsOnly (Checks.checkAll checkSource c.quality.sources)
        fun f => f.BlamesConfig ∨ c.Unreadable f := by
    apply Checks.failsOnly_checkAll
    intro pattern hMember
    apply failsOnly_withContext_map
    exact fun f hRead => .inr (.source hMember hRead)
  have hSuppressions :
      Except.FailsOnly
        (Checks.checkAll checkSuppression c.quality.suppressions)
        fun f => f.BlamesConfig ∨ c.Unreadable f := by
    apply Checks.failsOnly_checkAll
    intro s hMember
    apply Except.FailsOnly.bind
    · apply failsOnly_withContext_map
      exact fun f hRead => .inr (.suppression hMember hRead)
    · exact fun _ => hEnsure _ _
  have hForbidden :
      Except.FailsOnly
        (Checks.checkAll checkForbidden c.quality.forbiddenPatterns)
        fun f => f.BlamesConfig ∨ c.Unreadable f := by
    apply Checks.failsOnly_checkAll
    intro pattern hMember
    apply failsOnly_withContext_map
    exact fun f hRead => .inr (.forbidden hMember hRead)
  rw [validate_eq_checkAll]
  apply Checks.failsOnly_checkAll
  simp only [checks, List.forall_mem_cons, List.not_mem_nil,
    false_implies, implies_true, and_true]
  exact ⟨hEnsure _ _, hEnsure _ _, hEnsure _ _, hEnsure _ _,
    hEnsure _ _, hSources, hSuppressions, hForbidden, hEnsure _ _,
    hEnsure _ _, hEnsure _ _, hEnsure _ _, hEnsure _ _, hEnsure _ _,
    hEnsure _ _⟩

------------------------------------------------------------
-- Accepted Patterns
------------------------------------------------------------

variable {text : String} {c : Config}

/- An accepted configuration has passed each of its checks. -/
theorem check_of_parse
    (hParse : parse text = .ok c)
    {check : Except Fault Unit}
    (hMember : check ∈ c.checks) :
    check = .ok () :=
  validate_eq_ok_iff.mp (validate_of_parse hParse) check hMember

theorem exists_readGlob_of_source
    (hParse : parse text = .ok c)
    {pattern : String}
    (hMember : pattern ∈ c.quality.sources) :
    ∃ p, readGlob pattern = .ok p := by
  have hChecks :
      Checks.checkAll checkSource c.quality.sources = .ok () :=
    check_of_parse hParse (by simp [checks])
  have hCheck :=
    (Checks.checkAll_eq_ok_iff _ _).mp hChecks pattern hMember
  exact withContext_map_eq_ok_iff.mp hCheck

theorem exists_readSuppression
    (hParse : parse text = .ok c)
    {s : Suppression}
    (hMember : s ∈ c.quality.suppressions) :
    ∃ entry, readSuppression s = .ok entry := by
  have hChecks :
      Checks.checkAll checkSuppression c.quality.suppressions =
        .ok () :=
    check_of_parse hParse (by simp [checks])
  have hCheck := (Checks.checkAll_eq_ok_iff _ _).mp hChecks s hMember
  rcases Except.bind_eq_ok hCheck with ⟨⟨⟩, hFirst, -⟩
  rcases withContext_map_eq_ok_iff.mp hFirst with ⟨p, hRead⟩
  refine ⟨(s.rule, p), ?_⟩
  unfold readSuppression
  rw [hRead]

theorem exists_readForbidden
    (hParse : parse text = .ok c)
    {pattern : String}
    (hMember : pattern ∈ c.quality.forbiddenPatterns) :
    ∃ p, readForbidden pattern = .ok p := by
  have hChecks :
      Checks.checkAll checkForbidden c.quality.forbiddenPatterns =
        .ok () :=
    check_of_parse hParse (by simp [checks])
  have hCheck :=
    (Checks.checkAll_eq_ok_iff _ _).mp hChecks pattern hMember
  exact withContext_map_eq_ok_iff.mp hCheck

/- The rules of an accepted configuration can be compiled. -/
theorem exists_compile (hParse : parse text = .ok c) :
    ∃ rules, c.quality.compile = .ok rules := by
  rcases exists_mapM_eq_ok fun _ hMember =>
      exists_readForbidden hParse hMember with
    ⟨forbidden, hForbidden⟩
  rcases exists_mapM_eq_ok fun _ hMember =>
      exists_readSuppression hParse hMember with
    ⟨suppressions, hSuppressions⟩
  unfold QualityConfig.compile
  rw [hForbidden, hSuppressions]
  exact ⟨_, rfl⟩

end Config

------------------------------------------------------------
-- Versions
------------------------------------------------------------

/- A text is no version if it is no path segment. -/
theorem Version.ofText_eq_error_iff
    {v : String}
    {f : Fault} :
    ofText v = .error f ↔
      isPathSegment v = false ∧ f = .metadata (.invalidVersion v) := by
  unfold ofText
  split
  · next hSegment => simp [hSegment]
  · next hSegment => simp [hSegment, eq_comm]

namespace Config

variable {text : String} {c : Config}
variable {root : String} {asked package : Option String}
variable {env : Environment} {plan : ReleasePlan}

/- The first source that names a version is the one that counts. -/
theorem versionText?_eq_findSome?
    (c : Config)
    (asked package : Option String) :
    c.versionText? asked package =
      [asked, c.project.version, package].findSome? id := by
  unfold versionText?
  cases asked <;> cases c.project.version <;> cases package <;> rfl

/-
  If the rules can be compiled, a configuration is not
  resolved when there is no version, or one that is refused.
-/
theorem resolve_eq_error_iff
    {rules : RuleSettings}
    (hRules : c.quality.compile = .ok rules)
    {f : Fault} :
    c.resolve root asked package env = .error f ↔
      (c.versionText? asked package = none ∧
        f = .metadata (.invalidVersion "")) ∨
      ∃ v,
        c.versionText? asked package = some v ∧
        isPathSegment v = false ∧
        f = .metadata (.invalidVersion v) := by
  unfold resolve
  cases hText : c.versionText? asked package with
  | none =>
      simp only [reduceCtorEq, false_and, exists_false, or_false,
        true_and]
      change Except.error _ = _ ↔ _
      rw [Except.error.injEq, eq_comm]
  | some v =>
      simp only [reduceCtorEq, false_and, false_or, Option.some.injEq,
        exists_eq_left']
      rw [← Version.ofText_eq_error_iff]
      cases hVersion : Version.ofText v with
      | error g =>
          change Except.error g = _ ↔ _
          rw [Except.error.injEq, Except.error.injEq]
      | ok version =>
          rw [hRules]
          exact ⟨nofun, nofun⟩

/-
  A plan in which everything that depends on the version has
  the same text: the metadata, the channel and the paths of
  the build outputs.
-/
structure Versioned
    (c : Config)
    (root v : String)
    (plan : ReleasePlan) : Prop where
  version : plan.version.text = v
  metadata : plan.metadata.version = v
  routed :
    plan.router.classify plan.version = .snapshot ↔
      ∃ marker ∈ c.channels.markers, marker.toList <:+ v.toList
  expanded :
    ∀ kind,
      Assembly.outputPath plan.root plan.artifacts
          plan.metadata.artifact plan.version kind =
        Path.join root
          (Text.replaceAll
            (Text.replaceAll (c.artifacts.member kind).path
              "\x7bartifact\x7d" c.project.artifact)
            "\x7bversion\x7d" v)

theorem versioned_planFor
    (c : Config)
    (root : String)
    (env : Environment)
    (version : Version)
    (rules : RuleSettings) :
    c.Versioned root version.text
      (c.planFor root env version rules) where
  version := rfl
  metadata := rfl
  routed := ChannelRouter.classify_eq_snapshot_iff
  expanded := fun _ => rfl

/-
  An accepted configuration is resolved in any environment,
  unless the first of the three sources that names a version
  names one that is no path segment, or none of them does; the
  failure shows the text of this version, and no other source
  is asked.  Its rules are always compiled, and the plan uses
  one version throughout.
-/
theorem resolves_by_version
    (hParse : parse text = .ok c)
    (root : String)
    (asked package : Option String)
    (env : Environment) :
    (∃ rules, c.quality.compile = .ok rules) ∧
    (∀ f,
      c.resolve root asked package env = .error f ↔
        ([asked, c.project.version, package].findSome? id = none ∧
          f = .metadata (.invalidVersion "")) ∨
        ∃ v,
          [asked, c.project.version, package].findSome? id = some v ∧
          isPathSegment v = false ∧
          f = .metadata (.invalidVersion v)) ∧
    ((∃ plan, c.resolve root asked package env = .ok plan) ↔
      ∃ v,
        [asked, c.project.version, package].findSome? id = some v ∧
        isPathSegment v = true) ∧
    ∀ plan,
      c.resolve root asked package env = .ok plan →
      ∃ v,
        [asked, c.project.version, package].findSome? id = some v ∧
        c.quality.compile = .ok plan.quality ∧
        c.Versioned root v plan := by
  rcases exists_compile hParse with ⟨rules, hRules⟩
  rw [← versionText?_eq_findSome?]
  refine ⟨⟨rules, hRules⟩, fun f => resolve_eq_error_iff hRules,
    ⟨?_, ?_⟩, ?_⟩
  · rintro ⟨plan, hResolve⟩
    rcases resolve_eq_ok_iff.mp hResolve with
      ⟨version, -, hText, -, -⟩
    exact ⟨version.text, hText, version.segment⟩
  · rintro ⟨v, hText, hSegment⟩
    exact ⟨c.planFor root env ⟨v, hSegment⟩ rules,
      resolve_eq_ok_iff.mpr
        ⟨⟨v, hSegment⟩, rules, hText, hRules, rfl⟩⟩
  · intro plan hResolve
    rcases resolve_eq_ok_iff.mp hResolve with
      ⟨version, rules', hText, hRules', rfl⟩
    exact ⟨version.text, hText, hRules',
      versioned_planFor c root env version rules'⟩

/-
  A version that is asked for and refused is not replaced by
  the one that the sample names itself.
-/
theorem sample_resolves_by_version :
    parse Sample.document = .ok Sample.config ∧
    Sample.config.resolve "/p" (some "../1") (some "2")
        Sample.environment =
      .error (.metadata (.invalidVersion "../1")) ∧
    ∃ plan,
      Sample.config.resolve "/p" none (some "2")
          Sample.environment = .ok plan ∧
        Sample.config.Versioned "/p" "1" plan := by
  rcases resolves_by_version Sample.parse_document "/p" (some "../1")
      (some "2") Sample.environment with
    ⟨-, hFails, -, -⟩
  rcases resolves_by_version Sample.parse_document "/p" none
      (some "2") Sample.environment with
    ⟨-, -, hSucceeds, hPlan⟩
  refine ⟨Sample.parse_document, ?_, ?_⟩
  · exact (hFails _).mpr (.inr ⟨"../1", rfl, by decide, rfl⟩)
  · rcases hSucceeds.mpr ⟨"1", rfl, by decide⟩ with ⟨plan, hResolve⟩
    rcases hPlan plan hResolve with ⟨v, hText, -, hVersioned⟩
    cases hText
    exact ⟨plan, hResolve, hVersioned⟩

end Config

------------------------------------------------------------
-- A Bare Configuration
------------------------------------------------------------

namespace Sample

/-
  A configuration in which everything is left out that can be.
  It is for the samples about the addresses of repositories
  (Proofs.Publish.Location) and about the globs of sources
  (Proofs.Quality.Sources), which fill in what they are about.
-/
def bareConfig : Config where
  project :=
    { group := "", artifact := "", version := none, name := none
      description := "", url := "", license := .default
      developers := [], scm := .default }
  lockSnapshot := Config.defaultLockSnapshot
  quality := .default
  signing := .default
  channels := .default
  timeout := Config.defaultTimeout
  artifacts :=
    { binary := { path := "b", build := [] }
      sources := { path := "s", build := [] }
      docs := { path := "d", build := [] } }

end Sample

end ReleasePipeline
