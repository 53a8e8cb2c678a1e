import ReleasePipeline.Command.Outcome
import ReleasePipeline.Command.Project
import ReleasePipeline.Lock.Document
import ReleasePipeline.Lock.Snapshot
import ReleasePipeline.Quality.Gate

/-
  This file defines the commands that run the checks of a
  release on their own: whether the graph agrees with the lock
  snapshot, and whether the sources pass the quality gate.
  The first one can also write a new snapshot.

  Key definitions include:
    * `Program.lockPath`
    * `Program.writeLock`, `Program.checkLock`
    * `Program.listRules`, `Program.checkQuality`
-/

------------------------------------------------------------
-- The Lock Snapshot
------------------------------------------------------------

namespace ReleasePipeline

namespace Program

variable {σ : Type}

/- Where the lock snapshot of a project is. -/
def lockPath (p : Project) : String :=
  Path.join p.root
    (match p.config with
      | some c => c.lockSnapshot
      | none => Config.defaultLockSnapshot)

/- How the place of the lock snapshot is shown. -/
def shownLockPath (p : Project) : String :=
  (Path.relativeTo? (lockPath p) p.root).getD (lockPath p)

/- The document about a lock snapshot. -/
def lockDocument
    (p : Project)
    (written : Bool)
    (g : ResolvedGraph)
    (drift : List Drift) : Datum :=
  .record [("snapshot", .text (shownLockPath p)),
    ("written", .boolean written),
    ("dependencies", .integer g.catalog.size),
    ("drift", .list (drift.map Drift.toDatum))]

/- The exit code for a graph that diverges from the snapshot. -/
def driftStatus : Nat :=
  (ReleaseFault.lockMismatch []).exitCode

/- Write a snapshot of the current graph. -/
def writeLock
    (p : Project)
    (json : Bool) : Action σ Outcome := do
  let w ← Action.ofResult p.requireWorkspace
  let g ← Action.inspect w.resolvedGraph
  Action.update fun t => (LockSnapshot.ofGraph g).save t (lockPath p)
  pure
    (if json then
      .document (lockDocument p true g [])
    else
      .printing [s!"🔒 Wrote {shownLockPath p} " ++
        s!"({g.catalog.size} coordinate(s))"])

/- What is printed about the divergences from a snapshot. -/
def driftLines
    (p : Project)
    (g : ResolvedGraph)
    (drift : List Drift) : List String :=
  if drift = [] then
    [s!"✅ {shownLockPath p} matches the resolved graph " ++
      s!"({g.catalog.size} coordinate(s))"]
  else
    [s!"❌ {shownLockPath p} diverges from the resolved graph:", ""] ++
      drift.map (fun d => s!"   {d.describe}") ++
      ["", "💡 Re-lock with `cargo quay lock --write` once the " ++
        "change is intended."]

/- Compare the current graph with the snapshot. -/
def checkLock
    (p : Project)
    (json : Bool)
    (t : FileTree) : Except Fault Outcome := do
  let w ← p.requireWorkspace
  let g ← w.resolvedGraph t
  let snapshot ← LockSnapshot.load t (lockPath p)
  let drift := snapshot.diff g
  let shown : Outcome :=
    if json then .document (lockDocument p false g drift)
    else .printing (driftLines p g drift)
  pure
    (if drift = [] then shown
    else shown.endingWith (.stopped driftStatus))

------------------------------------------------------------
-- The Quality Gate
------------------------------------------------------------

/- A text, filled up with blanks to a width. -/
def padded (width : Nat) (s : String) : String :=
  String.ofList
    (s.toList ++ List.replicate (width - s.toList.length) ' ')

/- The value of a rule. -/
def ruleDatum (r : Quality.Rule) : Datum :=
  .record [("id", .text r.name), ("description", .text r.description)]

/- List the rules. -/
def listRules (json : Bool) : Outcome :=
  if json then
    .document (.list (Quality.ruleset.map ruleDatum))
  else
    .printing ([s!"📏 Rule set {rulesetName} " ++
        s!"({Quality.ruleset.length} rules)", ""] ++
      Quality.ruleset.map fun r =>
        s!"   {padded 20 r.name} {r.description}")

/- The sign of a severity. -/
def severitySign : Severity → String
  | .error => "❌"
  | .warning => "⚠️ "

/- The line about a finding. -/
def violationLine (v : Violation) : String :=
  s!"   {severitySign v.severity} {v.location} [{v.rule}] {v.message}"

/- The line between the findings and the summary. -/
def ruler : String :=
  String.ofList (List.replicate 46 '━')

/- What is printed about a report. -/
def reportLines (r : QualityReport) : List String :=
  [s!"🔍 Running rule set {r.ruleset} over " ++
      s!"{r.filesChecked} file(s)...", ""] ++
    r.violations.map violationLine ++
    (if r.violations = [] then [] else [""]) ++
    [ruler,
      s!"Summary: {r.errorCount} errors, {r.warningCount} warnings, " ++
        s!"{r.suppressed} suppressed",
      "",
      if r.passed then "✨ Quality gate passed!"
      else "❌ Quality gate failed. Warnings count as failures: " ++
        "fix or suppress every violation."]

/- The exit code for sources that do not pass. -/
def gateStatus : Nat :=
  (ReleaseFault.qualityGate []).exitCode

/- Run the gate, or only list its rules. -/
def checkQuality
    (p : Project)
    (rules json : Bool)
    (t : FileTree) : Except Fault Outcome := do
  let c ← p.requireConfig
  let s ← c.quality.compile
  if rules then
    pure (listRules json)
  else
    let r ← Gate.report t s p.root
    let shown : Outcome :=
      if json then .document r.toDatum else .printing (reportLines r)
    pure
      (if r.passed then shown
      else shown.endingWith (.stopped gateStatus))

end Program

end ReleasePipeline
