import Mathlib.Data.List.Nodup
import Mathlib.Data.List.Perm.Basic
import ReleasePipeline.Proofs.Host.Actions
import ReleasePipeline.Release.Assembly

/-
  This file proves when the build of a member succeeds and in
  which words it fails, and follows the world from build to
  build.  A build may change the world in any way, so what it
  comes to depends on those that were run before it.

  Key definitions include:
    * `Assembly.Job`
    * `Assembly.Job.Succeeds`, `Assembly.Job.FailsWith`
    * `Assembly.Job.worldAfter`, `Assembly.Job.AtTurn`

  Main declarations:
    * `Assembly.Job.build_cases`
    * `Assembly.Job.AtTurn.and`
-/

------------------------------------------------------------
-- Jobs
------------------------------------------------------------

namespace ReleasePipeline

theorem ArtifactKind.mem_all (kind : ArtifactKind) :
    kind ∈ all := by
  cases kind <;> decide

theorem ArtifactKind.nodup_all : all.Nodup := by
  decide

namespace Assembly

/- What is assembled, and the host that runs the builds. -/
structure Job (σ : Type) where
  host : Host σ
  root : String
  config : ArtifactsConfig
  artifact : String
  version : Version

namespace Job

variable {σ : Type}

/- The build command of a member. -/
def command
    (j : Job σ)
    (kind : ArtifactKind) : List String :=
  (j.config.member kind).build

/- Run the build of a member. -/
def build
    (j : Job σ)
    (kind : ArtifactKind) : Action σ Unit :=
  Assembly.build j.host j.root kind (j.command kind)

/- Where the output of a member is. -/
def path
    (j : Job σ)
    (kind : ArtifactKind) : String :=
  outputPath j.root j.config j.artifact j.version kind

/- Read the output of a member. -/
def output
    (j : Job σ)
    (t : FileTree)
    (kind : ArtifactKind) : Except Fault Artifact :=
  readOutput t kind (j.path kind)

/- Assemble, with the builds in the order of a schedule. -/
def assemble
    (j : Job σ)
    (schedule : List ArtifactKind) : Action σ ArtifactSet :=
  Assembly.assemble j.host schedule j.root j.config j.artifact j.version

------------------------------------------------------------
-- Builds
------------------------------------------------------------

/- Start the program of a build command. -/
def start
    (j : Job σ)
    (program : String)
    (arguments : List String)
    (w : World σ) : Except RunFault Finished :=
  (j.host.start (.plain program arguments (some j.root)) w).1

/- The words for a program that did not get to its end. -/
def unstarted
    (program : String)
    (e : RunFault) : String :=
  s!"failed to run `{program}`: {e.cause.message}"

/- The words for a program that did not end well. -/
def unsuccessful
    (command : List String)
    (finished : Finished) : String :=
  let shown := " ".intercalate command
  s!"`{shown}` {finished.complaint}"

/-
  The build of a member succeeds if it has no command, or if
  its program gets to its end and ends well.
-/
def Succeeds
    (j : Job σ)
    (kind : ArtifactKind)
    (w : World σ) : Prop :=
  ∀ program arguments, j.command kind = program :: arguments →
    ∃ finished, j.start program arguments w = .ok finished ∧
      finished.succeeded = true

/-
  The build of a member fails if its program does not get to
  its end, or does not end well.
-/
inductive FailsWith
    (j : Job σ)
    (kind : ArtifactKind)
    (w : World σ) : String → Prop where
  | unstarted
      {program : String}
      {arguments : List String}
      {e : RunFault}
      (hCommand : j.command kind = program :: arguments)
      (hStart : j.start program arguments w = .error e) :
      FailsWith j kind w (unstarted program e)
  | unsuccessful
      {program : String}
      {arguments : List String}
      {finished : Finished}
      (hCommand : j.command kind = program :: arguments)
      (hStart : j.start program arguments w = .ok finished)
      (hStatus : finished.succeeded = false) :
      FailsWith j kind w (unsuccessful (program :: arguments) finished)

/- The build of a member succeeds, or it fails in some words. -/
theorem build_cases
    (j : Job σ)
    (kind : ArtifactKind)
    (w : World σ) :
    (j.build kind w).1 = .ok () ∧ j.Succeeds kind w ∨
      ∃ reason, (j.build kind w).1 = .error (missing kind reason) ∧
        j.FailsWith kind w reason := by
  unfold build
  cases hCommand : j.command kind with
  | nil =>
      refine .inl ⟨rfl, fun program arguments hSome => ?_⟩
      rw [hCommand] at hSome
      cases hSome
  | cons program arguments =>
      rw [Assembly.build, Action.bind_apply, Host.run_apply]
      rcases hRun :
          j.host.start (.plain program arguments (some j.root)) w with
        ⟨e | finished, v⟩
      · exact .inr ⟨_, rfl, .unstarted hCommand (congrArg Prod.fst hRun)⟩
      · have hStart : j.start program arguments w = .ok finished :=
          congrArg Prod.fst hRun
        cases hStatus : finished.succeeded with
        | false =>
            refine .inr ⟨_, ?_, .unsuccessful hCommand hStart hStatus⟩
            simp only [Except.mapError, hStatus]
            rfl
        | true =>
            refine .inl ⟨?_, ?_⟩
            · simp only [Except.mapError, hStatus, if_true]
              rfl
            · intro other others hSame
              rw [hCommand] at hSame
              cases hSame
              exact ⟨finished, hStart, hStatus⟩

/- It does not do both. -/
theorem FailsWith.not_succeeds
    {j : Job σ}
    {kind : ArtifactKind}
    {w : World σ}
    {reason : String}
    (hFails : j.FailsWith kind w reason) :
    ¬ j.Succeeds kind w := by
  intro hSucceeds
  cases hFails with
  | unstarted hCommand hStart =>
      rcases hSucceeds _ _ hCommand with ⟨finished, hFound, -⟩
      rw [hStart] at hFound
      cases hFound
  | unsuccessful hCommand hStart hStatus =>
      rcases hSucceeds _ _ hCommand with ⟨finished, hFound, hDone⟩
      rw [hStart] at hFound
      cases hFound
      rw [hStatus] at hDone
      cases hDone

/- What a build comes to, by what it returns. -/
theorem succeeds_of_build
    {j : Job σ}
    {kind : ArtifactKind}
    {w : World σ}
    (hBuild : (j.build kind w).1 = .ok ()) :
    j.Succeeds kind w := by
  rcases j.build_cases kind w with ⟨-, hSucceeds⟩ | ⟨reason, hFault, -⟩
  · exact hSucceeds
  · rw [hFault] at hBuild
    cases hBuild

theorem failsWith_of_build
    {j : Job σ}
    {kind : ArtifactKind}
    {w : World σ}
    {f : Fault}
    (hBuild : (j.build kind w).1 = .error f) :
    ∃ reason, f = missing kind reason ∧ j.FailsWith kind w reason := by
  rcases j.build_cases kind w with ⟨hDone, -⟩ | ⟨reason, hFault, hFails⟩
  · rw [hDone] at hBuild
    cases hBuild
  · rw [hFault] at hBuild
    cases hBuild
    exact ⟨reason, rfl, hFails⟩

------------------------------------------------------------
-- Turns
------------------------------------------------------------

/- The world after builds that were run in some order. -/
def worldAfter
    (j : Job σ) : List ArtifactKind → World σ → World σ
  | [], w => w
  | kind :: order, w => j.worldAfter order (j.build kind w).2

theorem worldAfter_append
    (j : Job σ)
    (order later : List ArtifactKind)
    (w : World σ) :
    j.worldAfter (order ++ later) w =
      j.worldAfter later (j.worldAfter order w) := by
  induction order generalizing w with
  | nil => rfl
  | cons kind order ih => exact ih (j.build kind w).2

/- What holds of the world in which a member had its turn. -/
def AtTurn
    (j : Job σ)
    (order : List ArtifactKind)
    (w : World σ)
    (kind : ArtifactKind)
    (holds : World σ → Prop) : Prop :=
  ∃ before after, order = before ++ kind :: after ∧
    holds (j.worldAfter before w)

theorem AtTurn.append
    {j : Job σ}
    {order : List ArtifactKind}
    {w : World σ}
    {kind : ArtifactKind}
    {holds : World σ → Prop}
    (hTurn : j.AtTurn order w kind holds)
    (later : List ArtifactKind) :
    j.AtTurn (order ++ later) w kind holds := by
  rcases hTurn with ⟨before, after, rfl, hHolds⟩
  exact ⟨before, after ++ later, by simp, hHolds⟩

theorem atTurn_last
    {j : Job σ}
    {order : List ArtifactKind}
    {w : World σ}
    {kind : ArtifactKind}
    {holds : World σ → Prop}
    (hHolds : holds (j.worldAfter order w)) :
    j.AtTurn (order ++ [kind]) w kind holds :=
  ⟨order, [], rfl, hHolds⟩

/- A member has one turn. -/
theorem AtTurn.and
    {j : Job σ}
    {order : List ArtifactKind}
    {w : World σ}
    {kind : ArtifactKind}
    {first second : World σ → Prop}
    (hNodup : order.Nodup)
    (hFirst : j.AtTurn order w kind first)
    (hSecond : j.AtTurn order w kind second) :
    ∃ u, first u ∧ second u := by
  rcases hFirst with ⟨before, after, rfl, hFirst⟩
  rcases hSecond with ⟨before', after', hOrder, hSecond⟩
  rw [List.nodup_middle, List.nodup_cons, List.mem_append, not_or] at hNodup
  rcases (List.append_cons_inj_of_notMem hNodup.1.1 hNodup.1.2).mp hOrder
    with ⟨rfl, -, -⟩
  exact ⟨_, hFirst, hSecond⟩

end Job

end Assembly

end ReleasePipeline
