import ReleasePipeline.Command.Program
import ReleasePipeline.Proofs.Host.Actions

/-
  This file proves what has happened when a command ended with
  exit code zero: nothing that it asked for has failed, since
  no failure has this exit code.

  Main declarations:
    * `Fault.exitCode_ne_zero`
    * `Outcome.ofAction_eq_ok`
    * `Program.withTimeout_eq_ok`
    * `Program.release_eq_ok`
-/

------------------------------------------------------------
-- Failures
------------------------------------------------------------

namespace ReleasePipeline

/- Each failure has an exit code that tells it from success. -/
theorem Fault.exitCode_ne_zero (f : Fault) : f.exitCode ≠ 0 := by
  cases f with
  | release cause => cases cause <;> simp [exitCode, ReleaseFault.exitCode]
  | _ => simp [exitCode]

/- A command that fails before it prints does not succeed. -/
theorem Outcome.fails_exitCode_ne_zero (f : Fault) :
    (Outcome.fails f).exitCode ≠ 0 :=
  f.exitCode_ne_zero

variable {σ : Type}

namespace Program

/- Another timeout leaves the rest of a plan as it is. -/
theorem withTimeout_eq_ok
    {plan timed : ReleasePlan}
    {timeout : Option Nat}
    (hTimeout : withTimeout plan timeout = .ok timed) :
    ∃ seconds, timed = { plan with timeout := seconds } := by
  unfold withTimeout at hTimeout
  split at hTimeout
  · cases hTimeout
    exact ⟨plan.timeout, rfl⟩
  · cases hTimeout
  · cases hTimeout
    exact ⟨_, rfl⟩

/- A run that is printed as a success is one. -/
theorem releaseOutcome_eq_ok
    {json : Bool}
    {m : ReleaseMetadata}
    {progress : Progress}
    {result : Except Fault Receipt}
    (hDone : (releaseOutcome json m progress result).exitCode = 0) :
    ∃ receipt, result = .ok receipt := by
  cases result with
  | ok receipt => exact ⟨receipt, rfl⟩
  | error f => exact absurd hDone f.exitCode_ne_zero

/- A release that succeeds has run the pipeline of its plan. -/
theorem release_eq_ok
    {h : Host σ}
    {p : Project}
    {env : Environment}
    {asked : Option String}
    {timeout : Option Nat}
    {json : Bool}
    {w v : World σ}
    {o : Outcome}
    (hRun : release h p env asked timeout json w = (o, v))
    (hDone : o.exitCode = 0) :
    ∃ plan timed workspace pipeline receipt,
      p.plan asked env = .ok plan ∧
      withTimeout plan timeout = .ok timed ∧
      p.requireWorkspace = .ok workspace ∧
      Pipeline.ofPlan timed h (.ofWorkspace h workspace) =
        .ok pipeline ∧
      (pipeline.run w).1 = .ok receipt ∧
      (pipeline.run w).2.2 = v := by
  unfold release at hRun
  cases hPlanned : planRelease p env asked timeout with
  | error f =>
      rw [hPlanned] at hRun
      cases hRun
      exact absurd hDone (Outcome.fails_exitCode_ne_zero f)
  | ok planned =>
      rcases planned with ⟨timed, workspace⟩
      rw [hPlanned] at hRun
      dsimp only at hRun
      rcases Except.bind_eq_ok hPlanned with ⟨plan, hPlan, hRest⟩
      rcases Except.bind_eq_ok hRest with ⟨found, hTimed, hRest⟩
      rcases Except.bind_eq_ok hRest with ⟨there, hThere, hPure⟩
      cases hPure
      cases hPipeline :
          Pipeline.ofPlan timed h (.ofWorkspace h workspace) with
      | error f =>
          rw [hPipeline] at hRun
          cases hRun
          exact absurd hDone (Outcome.fails_exitCode_ne_zero f)
      | ok pipeline =>
          rw [hPipeline] at hRun
          have hOutcome := congrArg Prod.fst hRun
          have hWorld := congrArg Prod.snd hRun
          subst hOutcome
          rcases releaseOutcome_eq_ok hDone with ⟨receipt, hReceipt⟩
          exact ⟨plan, timed, workspace, pipeline, receipt, hPlan,
            hTimed, hThere, hPipeline, hReceipt, hWorld⟩

end Program

end ReleasePipeline
