import ReleasePipeline.Proofs.Command.ExitStatus
import ReleasePipeline.Proofs.Secrecy.Recording
import ReleasePipeline.Proofs.Secrecy.Release

/-
  This file proves that secrets do not show.  In two
  environments that set the same variables, whatever they hold
  there, every command prints the same and ends in the same
  way; a release goes through the same stages, stores the same
  files in the same order and ends with the same receipt, but
  for its time, or with the same failure; and all programs are
  started with the same arguments.

  Key definitions include:
    * `Outcome.Alike`
    * `Program.watch`
    * `Program.SameRelease`

  Main declarations:
    * `Program.alike_release`
    * `Program.same_run`, `Program.alike_run`
    * `Program.watch_transparent`
    * `Program.secrets_do_not_show`
-/

------------------------------------------------------------
-- Outcomes
------------------------------------------------------------

namespace ReleasePipeline

variable {σ τ : Type}
variable {S : Secret → Secret → Prop} {R : σ → τ → Prop}

/-
  Two outcomes: the same, or of two publications whose receipts
  differ in their times only.
-/
inductive Outcome.Alike : Outcome → Outcome → Prop where
  | same (o : Outcome) : Alike o o
  | published
      (json : Bool)
      (m : ReleaseMetadata)
      (progress : Progress)
      {receipt receipt' : Receipt}
      (hReceipts : Receipt.Alike receipt receipt') :
      Alike (Program.releaseOutcome json m progress (.ok receipt))
        (Program.releaseOutcome json m progress (.ok receipt'))

/- Actions that end alike have the same outcome. -/
theorem Outcome.alike_ofAction
    {a : Action σ Outcome}
    {b : Action τ Outcome}
    (hAlike : Action.Alike R Eq a b)
    {w : World σ}
    {v : World τ}
    (hWorlds : World.Alike R w v) :
    (ofAction a w).1 = (ofAction b v).1 ∧
      World.Alike R (ofAction a w).2 (ofAction b v).2 := by
  rcases hAlike w v hWorlds with ⟨hResult, hNext⟩
  exact ⟨congrArg ofResult hResult.eq, hNext⟩

namespace Program

variable {h : Host σ} {g : Host τ}
variable {w : World σ} {v : World τ}

------------------------------------------------------------
-- Releases
------------------------------------------------------------

theorem alike_withTimeout
    {plan plan' : ReleasePlan}
    (hPlan : ReleasePlan.Alike S plan plan')
    (timeout : Option Nat) :
    Except.Alike (ReleasePlan.Alike S) (withTimeout plan timeout)
      (withTimeout plan' timeout) := by
  unfold withTimeout
  split
  · exact .ok hPlan
  · exact .error _
  · exact .ok { hPlan with timeout := rfl }

/- Two plans of a release, in the same workspace. -/
def PlannedAlike
    (S : Secret → Secret → Prop)
    (planned planned' : ReleasePlan × Workspace) : Prop :=
  ReleasePlan.Alike S planned.1 planned'.1 ∧ planned.2 = planned'.2

open Environment (Counterparts SetsAlike)

variable {env₁ env₂ : Environment}

theorem alike_planRelease
    (hSets : SetsAlike env₁ env₂)
    (p : Project)
    (asked : Option String)
    (timeout : Option Nat) :
    Except.Alike (PlannedAlike (Counterparts env₁ env₂))
      (planRelease p env₁ asked timeout)
      (planRelease p env₂ asked timeout) := by
  apply (p.alike_plan hSets asked).bind
  intro plan plan' hPlan
  apply (alike_withTimeout hPlan timeout).bind
  intro timed timed' hTimed
  apply (Except.alike_self p.requireWorkspace).bind
  rintro workspace _ rfl
  exact .ok ⟨hTimed, rfl⟩

/- Pipelines that are alike end with outcomes that are alike. -/
theorem alike_runPipeline
    {p : Pipeline σ}
    {q : Pipeline τ}
    (hAlike : Pipeline.Alike S R p q)
    (json : Bool)
    (hWorlds : World.Alike R w v) :
    Outcome.Alike (runPipeline p json w).1 (runPipeline q json v).1 ∧
      World.Alike R (runPipeline p json w).2
        (runPipeline q json v).2 := by
  rcases hAlike.run hWorlds with ⟨hResult, hProgress, hNext⟩
  unfold runPipeline
  rw [hAlike.plan.metadata]
  generalize p.run w = ended at hResult hProgress hNext ⊢
  generalize q.run v = ended' at hResult hProgress hNext ⊢
  rcases ended with ⟨result, p', w'⟩
  rcases ended' with ⟨result', q', v'⟩
  dsimp only at hProgress ⊢
  rw [hProgress]
  cases hResult with
  | ok hReceipts => exact ⟨.published json _ _ hReceipts, hNext⟩
  | error f => exact ⟨.same _, hNext⟩

theorem alike_prepare
    (hHosts : Host.AnswersAlike (Counterparts env₁ env₂) R h g)
    (hSets : SetsAlike env₁ env₂)
    (p : Project)
    (asked : Option String)
    (timeout : Option Nat) :
    Except.Alike (Pipeline.Alike (Counterparts env₁ env₂) R)
      (prepare h p env₁ asked timeout)
      (prepare g p env₂ asked timeout) := by
  apply (alike_planRelease hSets p asked timeout).bind
  rintro ⟨plan, workspace⟩ ⟨plan', -⟩ ⟨hPlan, rfl⟩
  exact Pipeline.alike_ofPlan hPlan hHosts
    (Backend.alike_ofWorkspace hHosts workspace)

theorem alike_release
    (hHosts : Host.AnswersAlike (Counterparts env₁ env₂) R h g)
    (hSets : SetsAlike env₁ env₂)
    (p : Project)
    (asked : Option String)
    (timeout : Option Nat)
    (json : Bool)
    (hWorlds : World.Alike R w v) :
    Outcome.Alike (release h p env₁ asked timeout json w).1
        (release g p env₂ asked timeout json v).1 ∧
      World.Alike R (release h p env₁ asked timeout json w).2
        (release g p env₂ asked timeout json v).2 := by
  have hPipelines := alike_prepare hHosts hSets p asked timeout
  rw [release_eq_prepare, release_eq_prepare]
  generalize prepare h p env₁ asked timeout = started
    at hPipelines ⊢
  generalize prepare g p env₂ asked timeout = started'
    at hPipelines ⊢
  cases hPipelines with
  | ok hAlike => exact alike_runPipeline hAlike json hWorlds
  | error f => exact ⟨.same _, hWorlds⟩

------------------------------------------------------------
-- Descriptions
------------------------------------------------------------

/- A channel is described by what is missing for it. -/
theorem alike_describeChannel
    (hSets : SetsAlike env₁ env₂)
    (p : Project)
    (asked : Option String)
    (json : Bool) :
    Except.Alike Eq (describeChannel p env₁ asked json)
      (describeChannel p env₂ asked json) := by
  apply (p.alike_plan hSets asked).bind
  intro plan plan' hPlan
  have hVersion := hPlan.version
  have hEndpoint :=
    hPlan.router.endpoint (plan'.router.classify plan'.version)
  rcases hEndpoint.shown_eq with ⟨hUrl, hUsername, hPassword⟩
  apply Except.Alike.ok
  rw [hVersion, hPlan.router.classify_eq]
  dsimp only [channelDocument, channelLines]
  rw [hEndpoint.missing_eq, hUrl, hUsername, hPassword]

theorem alike_comparePublished
    (hHosts : Host.AnswersAlike S R h g)
    {plan plan' : ReleasePlan}
    (hPlan : ReleasePlan.Alike S plan plan')
    (json : Bool) :
    Action.Alike R Eq (comparePublished h plan json)
      (comparePublished g plan' json) := by
  have hRoute := hPlan.router.route plan'.version
  unfold comparePublished
  rw [hPlan.version, hPlan.timeout, hPlan.metadata]
  apply (Action.alike_ofResult (hRoute.mapError Fault.release)).bind
  intro target target' hTarget
  apply (Repository.alike_openTarget hHosts hTarget plan'.timeout).bind
  intro repository repository' hRepository
  apply (alike_fetchMetadata hRepository _).bind_same
  intro published
  rw [hRepository.location]
  exact Action.alike_pure rfl

theorem alike_describeMetadata
    (hHosts : Host.AnswersAlike (Counterparts env₁ env₂) R h g)
    (hSets : SetsAlike env₁ env₂)
    (p : Project)
    (asked : Option String)
    (fetch json : Bool) :
    Action.Alike R Eq (describeMetadata h p env₁ asked fetch json)
      (describeMetadata g p env₂ asked fetch json) := by
  apply (Action.alike_ofResult (p.alike_plan hSets asked)).bind
  intro plan plan' hPlan
  split
  · exact alike_comparePublished hHosts hPlan json
  · rw [hPlan.metadata]
    exact Action.alike_pure rfl

------------------------------------------------------------
-- Commands
------------------------------------------------------------

theorem alike_writeLock
    (p : Project)
    (json : Bool) :
    Action.Alike R Eq (writeLock p json) (writeLock p json) := by
  apply (Action.alike_ofResult (Except.alike_self _)).bind_same
  intro workspace
  apply (Action.alike_inspect _).bind_same
  intro graph
  apply (Action.alike_update _).bind_same
  intro written
  exact Action.alike_pure rfl

/- Whether a command makes a release. -/
def isRelease : Command → Bool
  | .release _ _ _ => true
  | _ => false

/- Every command but a release has the very same outcome. -/
theorem same_perform
    (hHosts : Host.AnswersAlike (Counterparts env₁ env₂) R h g)
    (hSets : SetsAlike env₁ env₂)
    (p : Project)
    {command : Command}
    (hCommand : isRelease command = false)
    (hWorlds : World.Alike R w v) :
    (perform h p env₁ command w).1 = (perform g p env₂ command v).1 ∧
      World.Alike R (perform h p env₁ command w).2
        (perform g p env₂ command v).2 := by
  cases command with
  | release asked timeout json => cases hCommand
  | lock write json =>
      cases write with
      | true => exact Outcome.alike_ofAction (alike_writeLock p json) hWorlds
      | false => exact Outcome.alike_ofAction (Action.alike_inspect _) hWorlds
  | quality rules json =>
      exact Outcome.alike_ofAction (Action.alike_inspect _) hWorlds
  | channel asked json =>
      have hDescribed := alike_describeChannel hSets p asked json
      exact Outcome.alike_ofAction (Action.alike_ofResult hDescribed) hWorlds
  | metadata asked fetch json =>
      exact Outcome.alike_ofAction
        (alike_describeMetadata hHosts hSets p asked fetch json) hWorlds

/- Every command has outcomes that are alike. -/
theorem alike_perform
    (hHosts : Host.AnswersAlike (Counterparts env₁ env₂) R h g)
    (hSets : SetsAlike env₁ env₂)
    (p : Project)
    (command : Command)
    (hWorlds : World.Alike R w v) :
    Outcome.Alike (perform h p env₁ command w).1
        (perform g p env₂ command v).1 ∧
      World.Alike R (perform h p env₁ command w).2
        (perform g p env₂ command v).2 := by
  cases hCommand : isRelease command with
  | false =>
      rcases same_perform hHosts hSets p hCommand hWorlds with
        ⟨hOutcome, hNext⟩
      exact ⟨hOutcome ▸ .same _, hNext⟩
  | true =>
      cases command with
      | release asked timeout json =>
          exact alike_release hHosts hSets p asked timeout json hWorlds
      | _ => cases hCommand

/- Whether arguments ask for a release. -/
def asksForRelease (arguments : List String) : Bool :=
  match Request.ofArguments? arguments with
  | some (.run command) => isRelease command
  | _ => false

/-
  What relates the outcomes of a command on one project in
  both environments relates those of the program, since a
  project is read without looking at the environment.
-/
theorem relates_run
    {P : Outcome → Outcome → Prop}
    (hSelf : ∀ o, P o o)
    (hHosts : Host.AnswersAlike S R h g)
    (root : String)
    {arguments : List String}
    (hPerform :
      ∀ p command w v,
        Request.ofArguments? arguments = some (.run command) →
        World.Alike R w v →
        P (perform h p env₁ command w).1
            (perform g p env₂ command v).1 ∧
          World.Alike R (perform h p env₁ command w).2
            (perform g p env₂ command v).2)
    (hWorlds : World.Alike R w v) :
    P (run h env₁ root arguments w).1
        (run g env₂ root arguments v).1 ∧
      World.Alike R (run h env₁ root arguments w).2
        (run g env₂ root arguments v).2 := by
  rcases Project.alike_load hHosts root w v hWorlds with
    ⟨hProject, hNext⟩
  unfold run
  cases hRequest : Request.ofArguments? arguments with
  | none => exact ⟨hSelf _, hWorlds⟩
  | some request =>
      cases request with
      | help => exact ⟨hSelf _, hWorlds⟩
      | run command =>
          dsimp only
          generalize Project.load h root w = ended at hProject hNext ⊢
          generalize Project.load g root v = ended' at hProject hNext ⊢
          rcases ended with ⟨found, w'⟩
          rcases ended' with ⟨found', v'⟩
          cases hProject with
          | ok hSame =>
              cases hSame
              exact hPerform _ _ _ _ hRequest hNext
          | error f => exact ⟨hSelf _, hNext⟩

/- The program has the very same outcome without a release. -/
theorem same_run
    (hHosts : Host.AnswersAlike (Counterparts env₁ env₂) R h g)
    (hSets : SetsAlike env₁ env₂)
    (root : String)
    {arguments : List String}
    (hArguments : asksForRelease arguments = false)
    (hWorlds : World.Alike R w v) :
    (run h env₁ root arguments w).1 = (run g env₂ root arguments v).1 ∧
      World.Alike R (run h env₁ root arguments w).2
        (run g env₂ root arguments v).2 := by
  apply relates_run (fun _ => rfl) hHosts root _ hWorlds
  intro p command w v hRequest hBegin
  unfold asksForRelease at hArguments
  rw [hRequest] at hArguments
  exact same_perform hHosts hSets p hArguments hBegin

theorem alike_run
    (hHosts : Host.AnswersAlike (Counterparts env₁ env₂) R h g)
    (hSets : SetsAlike env₁ env₂)
    (root : String)
    (arguments : List String)
    (hWorlds : World.Alike R w v) :
    Outcome.Alike (run h env₁ root arguments w).1
        (run g env₂ root arguments v).1 ∧
      World.Alike R (run h env₁ root arguments w).2
        (run g env₂ root arguments v).2 := by
  apply relates_run .same hHosts root _ hWorlds
  intro p command w v _ hBegin
  exact alike_perform hHosts hSets p command hBegin

------------------------------------------------------------
-- Watched Releases
------------------------------------------------------------

/-
  A release of which everything is written down: the calls to
  its backend, the files it has stored, and the programs that
  are started.
-/
def watch
    (h : Host σ)
    (p : Project)
    (env : Environment)
    (asked : Option String)
    (timeout : Option Nat) :
    Except Fault (Pipeline (Recorded (Noted σ))) := do
  let (plan, workspace) ← planRelease p env asked timeout
  Pipeline.ofPlan plan h.noting.beside
    (Backend.ofWorkspace h.noting workspace).recorded

theorem alike_watch
    (hHosts : Host.AnswersAlike (Counterparts env₁ env₂) R h g)
    (hSets : SetsAlike env₁ env₂)
    (p : Project)
    (asked : Option String)
    (timeout : Option Nat) :
    Except.Alike
      (Pipeline.Alike (Counterparts env₁ env₂)
        (Recorded.Alike (Counterparts env₁ env₂)
          (Noted.Alike (Counterparts env₁ env₂) R)))
      (watch h p env₁ asked timeout)
      (watch g p env₂ asked timeout) := by
  apply (alike_planRelease hSets p asked timeout).bind
  rintro ⟨plan, workspace⟩ ⟨plan', -⟩ ⟨hPlan, rfl⟩
  have hNoting := hHosts.noting
  exact Pipeline.alike_ofPlan hPlan hNoting.beside
    (Backend.alike_ofWorkspace hNoting workspace).recorded

/- A release goes the same way whether it is watched or not. -/
theorem watch_transparent
    (h : Host σ)
    (p : Project)
    (env : Environment)
    (asked : Option String)
    (timeout : Option Nat) :
    Except.Alike
      (fun watched pipeline =>
        ∀ w : World σ,
          Except.Alike Receipt.Alike (watched.run w.watched).1
              (pipeline.run w).1 ∧
            (watched.run w.watched).2.1.progress =
              (pipeline.run w).2.1.progress ∧
            World.Alike (Recorded.Around (Noted.Around Eq))
              (watched.run w.watched).2.2 (pipeline.run w).2.2)
      (watch h p env asked timeout)
      (prepare h p env asked timeout) := by
  have hSelf := h.answersAlike_self (@Environment.eq_of_counterparts env)
  have hHosts := hSelf.noting_left
  apply (alike_planRelease (SetsAlike.refl env) p asked timeout).bind
  rintro ⟨plan, workspace⟩ ⟨plan', -⟩ ⟨hPlan, rfl⟩
  have hBackend := Backend.alike_ofWorkspace hHosts workspace
  have hPipelines :=
    Pipeline.alike_ofPlan hPlan hHosts.beside_left hBackend.recorded_left
  apply hPipelines.imp
  intro watched pipeline hAlike w
  exact hAlike.run ⟨rfl, rfl⟩

/-
  Two watched releases have ended alike.  They end with the
  same failure or with receipts that differ in their times
  only; they have entered the same stages, tried to store and
  stored the same files in the same order, started the same
  programs with the same arguments and left the same tree.
-/
structure SameRelease
    (ended :
      Except Fault Receipt × Pipeline (Recorded (Noted σ)) ×
        World (Recorded (Noted σ)))
    (ended' :
      Except Fault Receipt × Pipeline (Recorded (Noted τ)) ×
        World (Recorded (Noted τ))) : Prop where
  result : Except.Alike Receipt.Alike ended.1 ended'.1
  progress : ended.2.1.progress = ended'.2.1.progress
  puts :
    ended.2.2.outside.calls.filterMap Call.put? =
      ended'.2.2.outside.calls.filterMap Call.put?
  stored : ended.2.2.outside.stored = ended'.2.2.outside.stored
  started :
    ended.2.2.outside.outside.started.map Invocation.withoutInput =
      ended'.2.2.outside.outside.started.map Invocation.withoutInput
  tree : ended.2.2.tree = ended'.2.2.tree

theorem sameRelease_of_alike
    {p : Pipeline (Recorded (Noted σ))}
    {q : Pipeline (Recorded (Noted τ))}
    (hAlike :
      Pipeline.Alike S (Recorded.Alike S (Noted.Alike S R)) p q)
    (hWorlds : World.Alike R w v) :
    SameRelease (p.run w.watched) (q.run v.watched) := by
  rcases hAlike.run hWorlds.watched with ⟨hResult, hProgress, hEnd⟩
  exact {
    result := hResult
    progress := hProgress
    puts := hEnd.outside.puts_eq
    stored := hEnd.outside.stored
    started := hEnd.outside.outside.withoutInput_eq
    tree := hEnd.tree }

------------------------------------------------------------
-- Secrets
------------------------------------------------------------

/-
  Two environments set the same variables.  Programs and
  repositories answer in the same way to calls that differ in
  nothing but the contents of one variable; nothing is said
  about the time.  Then every command but a release has the
  same outcome, and a release too, but for the time in its
  receipt; releases that are watched go the same way; and the
  program starts the same programs with the same arguments.
-/
theorem secrets_do_not_show
    (hSets : SetsAlike env₁ env₂)
    (hHosts : Host.AnswersAlike (Counterparts env₁ env₂) R h g)
    (hWorlds : World.Alike R w v)
    (root : String) :
    (∀ arguments, asksForRelease arguments = false →
      (run h env₁ root arguments w).1 =
          (run g env₂ root arguments v).1 ∧
        World.Alike R (run h env₁ root arguments w).2
          (run g env₂ root arguments v).2) ∧
    (∀ arguments,
      Outcome.Alike (run h env₁ root arguments w).1
          (run g env₂ root arguments v).1 ∧
        World.Alike R (run h env₁ root arguments w).2
          (run g env₂ root arguments v).2) ∧
    (∀ p asked timeout,
      Except.Alike
        (fun pipeline pipeline' =>
          SameRelease (pipeline.run w.watched)
            (pipeline'.run v.watched))
        (watch h p env₁ asked timeout)
        (watch g p env₂ asked timeout)) ∧
    ∀ arguments,
      (run h.noting env₁ root arguments
            w.noting).2.outside.started.map Invocation.withoutInput =
        (run g.noting env₂ root arguments
            v.noting).2.outside.started.map Invocation.withoutInput := by
  refine ⟨?_, ?_, ?_, ?_⟩
  · intro arguments hArguments
    exact same_run hHosts hSets root hArguments hWorlds
  · intro arguments
    exact alike_run hHosts hSets root arguments hWorlds
  · intro p asked timeout
    apply (alike_watch hHosts hSets p asked timeout).imp
    intro pipeline pipeline' hAlike
    exact sameRelease_of_alike hAlike hWorlds
  · intro arguments
    have hNoted :=
      alike_run hHosts.noting hSets root arguments hWorlds.noting
    exact hNoted.2.outside.withoutInput_eq

end Program

namespace Sample

/- Every variable that the configuration names is set to a text. -/
def filledEnvironment (value : String) : Environment :=
  fun name =>
    if name ∈ ["u", "v", "k", "w"] then some value else none

theorem setsAlike_filledEnvironment
    (value value' : String)
    (hValue : value ≠ "")
    (hValue' : value' ≠ "") :
    Environment.SetsAlike (filledEnvironment value)
      (filledEnvironment value') := by
  intro name
  unfold Environment.Sets filledEnvironment
  by_cases hName : name ∈ ["u", "v", "k", "w"]
  · rw [if_pos hName, if_pos hName]
    exact ⟨fun _ => ⟨value', rfl, hValue'⟩,
      fun _ => ⟨value, rfl, hValue⟩⟩
  · rw [if_neg hName, if_neg hName]

/- The host of the sample gives the same answer to every call. -/
theorem answersAlike_host (S : Secret → Secret → Prop) :
    Host.AnswersAlike S Eq host host where
  start _ hWorlds := ⟨rfl, hWorlds⟩
  keyring _ _ := rfl
  client _ := rfl
  request _ hWorlds := ⟨rfl, hWorlds⟩

/- The release of the sample can be prepared. -/
theorem watch_project :
    ∃ p,
      Program.watch host project (filledEnvironment "x") none none =
        .ok p := by
  have hSome :
      (Program.watch host project (filledEnvironment "x") none
        none).toOption.isSome = true := by
    decide +kernel
  rcases Option.isSome_iff_exists.mp hSome with ⟨p, hWatch⟩
  exact ⟨p, Except.eq_ok_of_toOption hWatch⟩

end Sample

/-
  The sample makes the same release when its secrets have been
  changed, and its channel is described in the same way.
-/
theorem Program.sample_secrets_do_not_show :
    Environment.SetsAlike (Sample.filledEnvironment "x")
        (Sample.filledEnvironment "y") ∧
      Sample.filledEnvironment "x" "w" ≠
        Sample.filledEnvironment "y" "w" ∧
      (run Sample.host (Sample.filledEnvironment "x") "/p"
          ["channel", "--json"] Sample.projectWorld).1 =
        (run Sample.host (Sample.filledEnvironment "y") "/p"
          ["channel", "--json"] Sample.projectWorld).1 ∧
      ∃ p q,
        watch Sample.host Sample.project
            (Sample.filledEnvironment "x") none none = .ok p ∧
        watch Sample.host Sample.project
            (Sample.filledEnvironment "y") none none = .ok q ∧
        SameRelease (p.run Sample.projectWorld.watched)
          (q.run Sample.projectWorld.watched) := by
  have hSets :=
    Sample.setsAlike_filledEnvironment "x" "y" (by decide)
      (by decide)
  rcases secrets_do_not_show hSets (Sample.answersAlike_host _)
      ⟨rfl, rfl⟩ "/p" with
    ⟨hSame, -, hReleases, -⟩
  have hChannel : asksForRelease ["channel", "--json"] = false := by
    decide +kernel
  refine ⟨hSets, by decide, (hSame _ hChannel).1, ?_⟩
  rcases Sample.watch_project with ⟨p, hWatch⟩
  have hRelease := hReleases Sample.project none none
  rw [hWatch] at hRelease
  generalize
    watch Sample.host Sample.project (Sample.filledEnvironment "y")
      none none = other at hRelease ⊢
  cases hRelease with
  | ok hSameRelease => exact ⟨p, _, hWatch, rfl, hSameRelease⟩

end ReleasePipeline
