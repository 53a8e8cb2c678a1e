import ReleasePipeline.Command.Program
import ReleasePipeline.Proofs.Command.Relock
import ReleasePipeline.Proofs.Json.RoundTrip
import ReleasePipeline.Proofs.Pipeline.Fetching

/-
  This file proves what the exit status of a release tells.
  A run ends in the last stage if it succeeds and in a stage
  that names its failure otherwise; the command passes the
  failure on as it is; and the document that it prints says
  the same as its status.

  Key definitions include:
    * `Pipeline.Concluded`
    * `Program.prepare`, `Program.start`
    * `Outcome.PrintsOnly`
    * `Program.failureReport`, `Program.Tells`

  Main declarations:
    * `Pipeline.run_ends`
    * `Fault.exitCode_lt`
    * `Program.tells_runPipeline`
    * `Program.status_of_release`
-/

------------------------------------------------------------
-- The End of a Run
------------------------------------------------------------

namespace ReleasePipeline

variable {σ α : Type}

namespace Pipeline

/- A run that is over is in the stage of its outcome. -/
def Concluded (m : Moment σ) : Prop :=
  ∀ result, m.task = .finished result →
    m.progress.stage = lastStage result ∧
      m.progress.history.getLast? = some (lastStage result)

/-
  An action concludes a run as its failure, or as a task that
  enters the stage of its outcome.
-/
theorem concluded_after
    (progress : Progress)
    {entered : List Stage}
    {task : α → Task}
    (hTask :
      ∀ x result, task x = .finished result →
        entered = [lastStage result])
    (ended : Except Fault α × World σ) :
    Concluded (Moment.after progress entered task ended) := by
  rcases ended with ⟨f | x, world⟩
  · rintro result ⟨⟩
    exact ⟨rfl, List.getLast?_concat⟩
  · intro result hFinished
    rw [hTask x result hFinished]
    exact ⟨rfl, List.getLast?_concat⟩

theorem concluded_next
    {p : Pipeline σ}
    {m : Moment σ}
    (hConcluded : Concluded m) :
    Concluded (p.next m) := by
  rcases m with ⟨task, progress, w⟩
  cases task with
  | finished result => exact hConcluded
  | publish r mode =>
      apply concluded_after
      rintro receipt result ⟨⟩
      rfl
  | checkLock => exact concluded_after _ (by rintro _ _ ⟨⟩) _
  | assemble => exact concluded_after _ (by rintro _ _ ⟨⟩) _
  | passGate artifacts => exact concluded_after _ (by rintro _ _ ⟨⟩) _
  | select artifacts => exact concluded_after _ (by rintro _ _ ⟨⟩) _
  | sign artifacts c => exact concluded_after _ (by rintro _ _ ⟨⟩) _

/- The record of a run ends with the stage of its outcome. -/
theorem run_ends
    {p : Pipeline σ}
    (hInit : p.progress.stage = .init)
    (w : World σ) :
    (p.run w).2.1.progress.stage = lastStage (p.run w).1 ∧
      (p.run w).2.1.progress.history.getLast? =
        some (lastStage (p.run w).1) := by
  rcases run_eq_moment hInit w with ⟨result, hTask, hRun⟩
  have hConcluded : Concluded (p.moment w 6) := by
    apply moment_invariant
    · rintro result ⟨⟩
    · exact fun m hBefore => concluded_next hBefore
  rw [hRun]
  exact hConcluded result hTask

end Pipeline

------------------------------------------------------------
-- Documents
------------------------------------------------------------

/-
  The command prints one document and nothing else, and what
  it prints is read as this document.
-/
def Outcome.PrintsOnly
    (o : Outcome)
    (d : Datum) : Prop :=
  o.lines = [Json.pretty d] ∧
    Json.read? (Utf8.encode o.printed) = some d

theorem Outcome.printsOnly_of_lines
    {o : Outcome}
    {d : Datum}
    (hUsable : Json.Usable d)
    (hLines : o.lines = [Json.pretty d]) :
    o.PrintsOnly d := by
  refine ⟨hLines, ?_⟩
  have hPrinted : o.printed = Json.pretty d ++ "\n" := by
    unfold printed
    rw [hLines]
    exact String.empty_append
  rw [hPrinted]
  exact Json.read?_pretty_of_usable hUsable

open Json (Usable)

theorem Json.usable_texts (texts : List String) :
    Usable (Datum.ofTexts texts) := by
  apply Usable.list
  intro d hMem
  rcases List.mem_map.mp hMem with ⟨t, -, rfl⟩
  exact .text t

theorem Receipt.usable_entryDatum (e : ReceiptEntry) :
    Usable (entryDatum e) := by
  apply Usable.record
  simp [Usable.text]

theorem Receipt.usable_toDatum (r : Receipt) :
    Usable r.toDatum := by
  have hEntries : Usable (.list (r.artifacts.map entryDatum)) := by
    apply Usable.list
    intro d hMem
    rcases List.mem_map.mp hMem with ⟨e, -, rfl⟩
    exact usable_entryDatum e
  apply Usable.record
  simp [Usable.text, hEntries, Json.usable_texts]

/- The status of a failure fits into a byte. -/
theorem Fault.exitCode_lt (f : Fault) : f.exitCode < 256 := by
  cases f with
  | release cause => cases cause <;> simp [exitCode, ReleaseFault.exitCode]
  | _ => simp [exitCode]

namespace Program

/-
  What a document says about a failure and the status that the
  program ends with: the kind of a terminal failure, and null
  for any other one.
-/
def failureReport
    (f : Fault)
    (status : Nat) : Datum :=
  let kind := f.release?.map ReleaseFault.kind
  let reason := kind.getD "Error"
  .record [("exit_code", .integer status),
    ("kind", Datum.ofText? kind), ("message", .text f.message),
    ("state", .text s!"FAILED({reason})")]

theorem usable_failureReport
    (f : Fault)
    (status : Nat) :
    Usable (failureReport f status) := by
  have hKind : Usable (Datum.ofText? (f.release?.map ReleaseFault.kind)) := by
    cases f.release? with
    | none => exact .null
    | some cause => exact .text cause.kind
  apply Usable.record
  simp [Usable.text, Usable.integer, hKind]

/- The document about a failed run is the report of its failure. -/
theorem stoppedDocument_eq
    {progress : Progress}
    {f : Fault}
    (hStage :
      progress.stage = Pipeline.lastStage (.error f)) :
    stoppedDocument progress f = failureReport f f.exitCode := by
  have hReason :
      Pipeline.failureKind f =
        (f.release?.map ReleaseFault.kind).getD "Error" := by
    unfold Pipeline.failureKind
    cases f.release? <;> rfl
  unfold stoppedDocument failureReport
  rw [hStage, Pipeline.lastStage, hReason]
  rfl

------------------------------------------------------------
-- What a Status Tells
------------------------------------------------------------

/-
  What the end of a command tells about a run with a result
  and a record of stages.  A failure of the run is that of the
  command, and its status fits into a byte; with documents,
  exactly one is printed.
-/
structure Tells
    (json : Bool)
    (result : Except Fault Receipt)
    (history : List Stage)
    (o : Outcome) : Prop where
  published :
    o.exitCode = 0 ↔ history.getLast? = some .published
  receipt :
    ∀ r, result = .ok r →
      o.ending = .completed ∧ o.exitCode = 0 ∧
      (json = true → o.PrintsOnly r.toDatum)
  failure :
    ∀ f, result = .error f →
      o.ending = .failed f ∧
      o.exitCode = f.exitCode ∧ o.exitCode ≠ 0 ∧ o.exitCode < 256 ∧
      (json = true → o.PrintsOnly (failureReport f o.exitCode))

/- A run is told whatever its collaborators do. -/
theorem tells_runPipeline
    {p : Pipeline σ}
    (hInit : p.progress.stage = .init)
    (json : Bool)
    (w : World σ) :
    Tells json (p.run w).1 (p.run w).2.1.progress.history
      (runPipeline p json w).1 := by
  rcases Pipeline.run_ends hInit w with ⟨hStage, hHistory⟩
  unfold runPipeline
  rcases hRun : p.run w with ⟨result, p', v⟩
  rw [hRun] at hStage hHistory
  dsimp only at hStage hHistory ⊢
  cases result with
  | ok r =>
      constructor
      case published =>
        rw [hHistory]
        exact ⟨fun _ => rfl, fun _ => by cases json <;> rfl⟩
      case receipt =>
        rintro r ⟨⟩
        refine ⟨by cases json <;> rfl, by cases json <;> rfl, ?_⟩
        rintro rfl
        exact Outcome.printsOnly_of_lines r.usable_toDatum rfl
      case failure => nofun
  | error f =>
      constructor
      case published =>
        rw [hHistory]
        exact ⟨fun hDone => absurd hDone f.exitCode_ne_zero, nofun⟩
      case receipt => nofun
      case failure =>
        rintro f ⟨⟩
        refine ⟨rfl, rfl, f.exitCode_ne_zero, f.exitCode_lt, ?_⟩
        rintro rfl
        apply Outcome.printsOnly_of_lines (usable_failureReport f _)
        have hDocument := stoppedDocument_eq hStage
        exact congrArg (fun d => [Json.pretty d]) hDocument

------------------------------------------------------------
-- The Command
------------------------------------------------------------

/- The pipeline of a release, before anything is run. -/
def prepare
    (h : Host σ)
    (p : Project)
    (env : Environment)
    (asked : Option String)
    (timeout : Option Nat) : Except Fault (Pipeline σ) := do
  let (plan, workspace) ← planRelease p env asked timeout
  Pipeline.ofPlan plan h (.ofWorkspace h workspace)

/- Look at a directory and start the pipeline of a release. -/
def start
    (h : Host σ)
    (env : Environment)
    (root : String)
    (asked : Option String)
    (timeout : Option Nat) : Action σ (Pipeline σ) := do
  let p ← Project.load h root
  Action.ofResult (prepare h p env asked timeout)

/- The command runs the pipeline that it has prepared. -/
theorem release_eq_prepare
    (h : Host σ)
    (p : Project)
    (env : Environment)
    (asked : Option String)
    (timeout : Option Nat)
    (json : Bool)
    (w : World σ) :
    release h p env asked timeout json w =
      match prepare h p env asked timeout with
      | .error f => (.fails f, w)
      | .ok pipeline => runPipeline pipeline json w := by
  unfold release prepare
  cases planRelease p env asked timeout with
  | error f => rfl
  | ok planned => rfl

/- A pipeline that is prepared has not been run. -/
theorem prepare_eq_ok
    {h : Host σ}
    {p : Project}
    {env : Environment}
    {asked : Option String}
    {timeout : Option Nat}
    {pipeline : Pipeline σ}
    (hPrepare : prepare h p env asked timeout = .ok pipeline) :
    pipeline.progress = .start := by
  rcases Except.bind_eq_ok hPrepare with ⟨⟨plan, workspace⟩, -, hPlan⟩
  exact (Pipeline.ofPlan_fields hPlan).2.2.2

/-
  The program runs the pipeline that it has started, where the
  start has left the world.
-/
theorem run_eq_start
    {arguments : List String}
    {asked : Option String}
    {timeout : Option Nat}
    {json : Bool}
    (hArguments :
      Request.ofArguments? arguments =
        some (.run (.release asked timeout json)))
    (h : Host σ)
    (env : Environment)
    (root : String)
    (w : World σ) :
    run h env root arguments w =
      match start h env root asked timeout w with
      | (.error f, v) => (.fails f, v)
      | (.ok pipeline, v) => runPipeline pipeline json v := by
  unfold run start
  rw [hArguments, Action.bind_apply]
  dsimp only
  rcases Project.load h root w with ⟨f | p, v⟩
  · rfl
  · dsimp only [Action.ofResult]
    change release h p env asked timeout json v = _
    rw [release_eq_prepare]
    cases prepare h p env asked timeout with
    | error f => rfl
    | ok pipeline => rfl

theorem start_of_load
    {h : Host σ}
    {root : String}
    {p : Project}
    {w v : World σ}
    (hLoad : Project.load h root w = (.ok p, v))
    (env : Environment)
    (asked : Option String)
    (timeout : Option Nat) :
    start h env root asked timeout w =
      (prepare h p env asked timeout, v) := by
  unfold start
  rw [Action.bind_apply, hLoad]
  rfl

theorem start_eq_ok
    {h : Host σ}
    {env : Environment}
    {root : String}
    {asked : Option String}
    {timeout : Option Nat}
    {w v : World σ}
    {pipeline : Pipeline σ}
    (hStart : start h env root asked timeout w = (.ok pipeline, v)) :
    pipeline.progress = .start := by
  rcases Action.bind_eq_ok hStart with ⟨p, u, -, hResult⟩
  exact prepare_eq_ok (Action.ofResult_eq_ok hResult).1

/-
  The status of a release, whatever the directory, the
  variables and the host are.  It is zero just if a pipeline
  was started and its record ends with the last stage.  If no
  pipeline was started nothing is printed, and the status is
  that of the failure; if one was started the end of the
  program tells how it ended, and so it does with any other
  collaborators.
-/
theorem status_of_release
    {arguments : List String}
    {asked : Option String}
    {timeout : Option Nat}
    {json : Bool}
    (hArguments :
      Request.ofArguments? arguments =
        some (.run (.release asked timeout json)))
    (h : Host σ)
    (env : Environment)
    (root : String)
    (w : World σ) :
    let started := start h env root asked timeout w
    let ended := (run h env root arguments w).1
    (ended.exitCode = 0 ↔
      ∃ p, started.1 = .ok p ∧
        (p.run started.2).2.1.progress.history.getLast? =
          some .published) ∧
    (∀ f, started.1 = .error f →
      ended = .fails f ∧ ended.exitCode = f.exitCode ∧
        ended.exitCode ≠ 0 ∧ ended.exitCode < 256) ∧
    (∀ p, started.1 = .ok p →
      p.progress = .start ∧
      Tells json (p.run started.2).1
        (p.run started.2).2.1.progress.history ended) ∧
    ∀ (τ : Type) (p : Pipeline τ) (u : World τ),
      p.progress = .start →
      Tells json (p.run u).1 (p.run u).2.1.progress.history
        (runPipeline p json u).1 := by
  intro started ended
  have hEnded :
      ended =
        (match started with
          | (.error f, v) => (Outcome.fails f, v)
          | (.ok pipeline, v) => runPipeline pipeline json v).1 :=
    congrArg Prod.fst (run_eq_start hArguments h env root w)
  have hAny (τ : Type) (p : Pipeline τ) (u : World τ)
      (hStart : p.progress = .start) :
      Tells json (p.run u).1 (p.run u).2.1.progress.history
        (runPipeline p json u).1 :=
    tells_runPipeline (Pipeline.init_of_start hStart) json u
  have hFresh (p : Pipeline σ) (hPipeline : started.1 = .ok p) :
      p.progress = .start :=
    start_eq_ok (Prod.ext hPipeline rfl)
  clear_value started ended
  rcases started with ⟨f | p, v⟩
  · dsimp only at hEnded hFresh ⊢
    have hStatus : ended.exitCode ≠ 0 := by
      rw [hEnded]
      exact f.exitCode_ne_zero
    refine ⟨⟨fun hDone => absurd hDone hStatus, ?_⟩, ?_, ?_, hAny⟩
    · rintro ⟨p, hStarted, -⟩
      cases hStarted
    · rintro g hFailed
      cases hFailed
      have hExit : ended.exitCode = f.exitCode :=
        congrArg Outcome.exitCode hEnded
      exact ⟨hEnded, hExit, hStatus, hExit ▸ f.exitCode_lt⟩
    · intro p hStarted
      cases hStarted
  · dsimp only at hEnded hFresh ⊢
    have hTells := hAny σ p v (hFresh p rfl)
    rw [← hEnded] at hTells
    refine ⟨⟨fun hDone => ⟨p, rfl, hTells.published.mp hDone⟩, ?_⟩,
      ?_, ?_, hAny⟩
    · rintro ⟨q, hStarted, hLast⟩
      cases hStarted
      exact hTells.published.mpr hLast
    · intro f hFailed
      cases hFailed
    · intro q hStarted
      cases hStarted
      exact ⟨hFresh p rfl, hTells⟩

end Program

namespace Sample

/- The directory has no configuration, so that nothing is started. -/
theorem start_manifestWorld :
    Program.start cargo environment "/p" none none manifestWorld =
      (.error (.config (.notFound "/p")), manifestWorld) := by
  have hPrepare :
      Program.prepare cargo listedProject environment none none =
        .error (.config (.notFound "/p")) := rfl
  rw [Program.start_of_load load_listedProject, hPrepare]

end Sample

namespace Program

/-
  The sample without a configuration fails with the status of
  its failure; the one that publishes prints its receipt.
-/
theorem sample_status_of_release :
    Request.ofArguments? ["release", "--json"] =
        some (.run (.release none none true)) ∧
      (run Sample.cargo Sample.environment "/p" ["release", "--json"]
          Sample.manifestWorld).1 =
        .fails (.config (.notFound "/p")) ∧
      (run Sample.cargo Sample.environment "/p" ["release", "--json"]
          Sample.manifestWorld).1.exitCode = 1 ∧
      ∃ receipt,
        (Sample.jsonPipeline.run Sample.jsonWorld).1 = .ok receipt ∧
        (Sample.jsonPipeline.run
            Sample.jsonWorld).2.1.progress.history.getLast? =
          some .published ∧
        let ended :=
          (runPipeline Sample.jsonPipeline true Sample.jsonWorld).1
        ended.exitCode = 0 ∧ ended.PrintsOnly receipt.toDatum := by
  have hArguments :
      Request.ofArguments? ["release", "--json"] =
        some (.run (.release none none true)) := by
    decide +kernel
  rcases status_of_release hArguments Sample.cargo Sample.environment
      "/p" Sample.manifestWorld with
    ⟨-, hFailed, -, hTold⟩
  rcases hFailed _ (congrArg Prod.fst Sample.start_manifestWorld) with
    ⟨hEnded, hStatus, -⟩
  rcases Sample.run_jsonPipeline with ⟨receipt, hRun⟩
  have hTells :=
    hTold _ Sample.jsonPipeline Sample.jsonWorld rfl
  rcases hTells.receipt receipt hRun with ⟨-, hDone, hPrints⟩
  exact ⟨hArguments, hEnded, hStatus, receipt, hRun,
    hTells.published.mp hDone, hDone, hPrints rfl⟩

end Program

end ReleasePipeline
