import ReleasePipeline.Command.Checking
import ReleasePipeline.Pipeline.Run

/-
  This file defines the command that makes a release.  It
  prints a receipt, or how far the release has come.

  Key definitions include:
    * `Program.planRelease`
    * `Program.releaseOutcome`
    * `Program.runPipeline`
    * `Program.release`
-/

------------------------------------------------------------
-- Texts
------------------------------------------------------------

namespace ReleasePipeline

namespace Program

variable {σ : Type}

/- The line that begins a release. -/
def releaseLines (m : ReleaseMetadata) : List String :=
  [s!"🚀 Releasing {m.group}:{m.artifact}:{m.version}", ""]

/- The lines about an artifact of a receipt. -/
def entryLines (e : ReceiptEntry) : List String :=
  [s!"   📦 {padded 8 e.member.name} {e.path}",
    s!"      sha256 {e.sha256}"]

/- What is printed about a receipt. -/
def receiptLines (r : Receipt) : List String :=
  [s!"✅ Published to the {r.channel.name} channel",
    s!"   Target:  {r.target}",
    s!"   Signing: {r.signing.display}", ""] ++
    r.artifacts.flatMap entryLines ++
    ["",
      s!"✨ {r.uploaded.length} file(s) uploaded at {r.publishedAt}"]

/- What is printed about a release that has stopped. -/
def stoppedLine (p : Progress) : String :=
  "⛔ Pipeline stopped: " ++
    " → ".intercalate (p.history.map Stage.display)

/- The document about a release that has stopped. -/
def stoppedDocument
    (p : Progress)
    (f : Fault) : Datum :=
  .record [("exit_code", .integer f.exitCode),
    ("kind", Datum.ofText? (f.release?.map ReleaseFault.kind)),
    ("message", .text f.message), ("state", .text p.stage.display)]

/- The outcome of a run. -/
def releaseOutcome
    (json : Bool)
    (m : ReleaseMetadata)
    (p : Progress) : Except Fault Receipt → Outcome
  | .ok receipt =>
      if json then
        .document receipt.toDatum
      else
        .printing (releaseLines m ++ receiptLines receipt)
  | .error f =>
      let shown : Outcome :=
        if json then
          .document (stoppedDocument p f)
        else
          .printing (releaseLines m ++ [stoppedLine p])
      shown.endingWith (.failed f)

------------------------------------------------------------
-- Releases
------------------------------------------------------------

/- Give a plan another timeout, which must not be zero. -/
def withTimeout
    (plan : ReleasePlan)
    (timeout : Option Nat) : Except Fault ReleasePlan :=
  match timeout with
  | none => .ok plan
  | some 0 => .error (.plain "--timeout must be greater than zero")
  | some seconds => .ok { plan with timeout := seconds }

/- The plan of a release, and the workspace that it is made in. -/
def planRelease
    (p : Project)
    (env : Environment)
    (asked : Option String)
    (timeout : Option Nat) : Except Fault (ReleasePlan × Workspace) := do
  let plan ← p.plan asked env
  let plan ← withTimeout plan timeout
  let workspace ← p.requireWorkspace
  pure (plan, workspace)

/- Run a pipeline and print how it ended. -/
def runPipeline
    (p : Pipeline σ)
    (json : Bool)
    (w : World σ) : Outcome × World σ :=
  let (result, p', w) := p.run w
  (releaseOutcome json p.plan.metadata p'.progress result, w)

/- Make a release with the collaborators of a workspace. -/
def release
    (h : Host σ)
    (p : Project)
    (env : Environment)
    (asked : Option String)
    (timeout : Option Nat)
    (json : Bool)
    (w : World σ) : Outcome × World σ :=
  match planRelease p env asked timeout with
  | .error f => (.fails f, w)
  | .ok (plan, workspace) =>
      match Pipeline.ofPlan plan h (.ofWorkspace h workspace) with
      | .error f => (.fails f, w)
      | .ok pipeline => runPipeline pipeline json w

end Program

end ReleasePipeline
