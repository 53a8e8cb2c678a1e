import ReleasePipeline.Proofs.Pipeline.Moments
import ReleasePipeline.Proofs.Secrecy.Actions

/-
  This file proves that two releases whose plans differ in
  their secrets only stay alike.  Every task ends alike when
  it begins alike, so that at every moment of both runs the
  same task is next, the same stages have been entered and
  the worlds look alike; the runs end with the same failure
  or with receipts that differ in their times only.

  Key definitions include:
    * `Receipt.undated`, `Receipt.Alike`
    * `Pipeline.Alike`
    * `Task.Alike`, `Moment.Alike`

  Main declarations:
    * `Pipeline.Alike.next`
    * `Pipeline.Alike.moment`
    * `Pipeline.Alike.run`
-/

------------------------------------------------------------
-- Pipelines
------------------------------------------------------------

namespace ReleasePipeline

variable {σ τ α β : Type}
variable {S : Secret → Secret → Prop}
variable {R : σ → τ → Prop} {V : α → β → Prop}

/- A receipt without the time of its publication. -/
def Receipt.undated (r : Receipt) : Receipt :=
  { r with publishedAt := "" }

/- Two receipts that differ in their times only. -/
def Receipt.Alike (r s : Receipt) : Prop :=
  r.undated = s.undated

/- Two pipelines whose plans differ in their secrets only. -/
structure Pipeline.Alike
    (S : Secret → Secret → Prop)
    (R : σ → τ → Prop)
    (p : Pipeline σ)
    (q : Pipeline τ) : Prop where
  plan : ReleasePlan.Alike S p.plan q.plan
  host : Host.AnswersAlike S R p.host q.host
  backend : Backend.Alike S R p.backend q.backend
  progress : p.progress = q.progress

namespace Pipeline

/- The metadata of both plans are the same, and so is their check. -/
theorem alike_ofPlan
    {plan plan' : ReleasePlan}
    {h : Host σ}
    {g : Host τ}
    {b : Backend σ}
    {d : Backend τ}
    (hPlan : ReleasePlan.Alike S plan plan')
    (hHosts : Host.AnswersAlike S R h g)
    (hBackend : Backend.Alike S R b d) :
    Except.Alike (Pipeline.Alike S R) (ofPlan plan h b)
      (ofPlan plan' g d) := by
  unfold ofPlan
  rw [hPlan.metadata]
  apply (Except.alike_self plan'.metadata.validate).bind
  rintro valid _ -
  exact .ok ⟨hPlan, hHosts, hBackend, rfl⟩

------------------------------------------------------------
-- Tasks
------------------------------------------------------------

namespace Alike

variable {p : Pipeline σ} {q : Pipeline τ}

theorem checkLock (hAlike : Pipeline.Alike S R p q) :
    Action.Alike R Eq p.checkLock q.checkLock := by
  unfold Pipeline.checkLock
  rw [hAlike.plan.lockSnapshot]
  apply (Action.alike_inspect _).bind_same
  intro snapshot
  apply hAlike.backend.resolvedGraph.bind_same
  intro graph
  exact Action.alike_ofResult (Except.alike_self _)

theorem assemble (hAlike : Pipeline.Alike S R p q) :
    Action.Alike R Eq p.assemble q.assemble := by
  unfold Pipeline.assemble
  rw [hAlike.plan.root, hAlike.plan.artifacts, hAlike.plan.metadata,
    hAlike.plan.version]
  exact Assembly.alike_assemble hAlike.host _ _ _ _ _

theorem passGate (hAlike : Pipeline.Alike S R p q) :
    Action.Alike R Eq p.passGate q.passGate := by
  unfold Pipeline.passGate
  rw [hAlike.plan.quality, hAlike.plan.root]
  exact Action.alike_inspect _

theorem credential (hAlike : Pipeline.Alike S R p q) :
    Action.Alike R (Credential.Alike S) p.credential q.credential :=
  Action.alike_ofResult
    (hAlike.plan.signing.select.mapError Fault.release)

theorem signMember
    {s : Signer σ}
    {t : Signer τ}
    (hSigners : Signer.Alike R s t)
    (member : String)
    (data : Bytes) :
    Action.Alike R Eq (signMember s member data)
      (Pipeline.signMember t member data) :=
  (hSigners data).refine _

/- The signatures are the same, since they are answered alike. -/
theorem sign
    (hAlike : Pipeline.Alike S R p q)
    {c c' : Credential}
    (hCredential : Credential.Alike S c c')
    (artifacts : ArtifactSet) :
    Action.Alike R Eq (p.sign c artifacts) (q.sign c' artifacts) := by
  unfold Pipeline.sign
  rw [hAlike.plan.metadata]
  apply ((hAlike.backend.signer hCredential).refine _).bind
  intro s t hSigners
  apply (signMember hSigners _ _).bind_same
  intro binarySignature
  apply (signMember hSigners _ _).bind_same
  intro sourcesSignature
  apply (signMember hSigners _ _).bind_same
  intro docsSignature
  apply (signMember hSigners _ _).bind_same
  intro documentSignature
  exact Action.alike_pure rfl

/- What time it is does not matter to anything but the receipt. -/
theorem publish
    (hAlike : Pipeline.Alike S R p q)
    (r : SignedRelease)
    (mode : SigningMode) :
    Action.Alike R Receipt.Alike (p.publish r mode)
      (q.publish r mode) := by
  have hRoute := hAlike.plan.router.route q.plan.version
  unfold Pipeline.publish
  rw [hAlike.plan.version, hAlike.plan.timeout]
  apply (Action.alike_ofResult (hRoute.mapError Fault.release)).bind
  intro target target' hTarget
  apply (hAlike.backend.repository q.plan.timeout hTarget).bind
  intro repository repository' hRepository
  apply (alike_uploadAll hRepository _).bind_same
  intro uploaded w v hWorlds
  refine ⟨.ok ?_, hWorlds⟩
  cases hTarget
  rfl

end Alike

end Pipeline

------------------------------------------------------------
-- Moments
------------------------------------------------------------

/- The same task, with credentials that correspond. -/
inductive Task.Alike (S : Secret → Secret → Prop) :
    Task → Task → Prop where
  | checkLock : Alike S .checkLock .checkLock
  | assemble : Alike S .assemble .assemble
  | passGate (artifacts : ArtifactSet) :
      Alike S (.passGate artifacts) (.passGate artifacts)
  | select (artifacts : ArtifactSet) :
      Alike S (.select artifacts) (.select artifacts)
  | sign
      (artifacts : ArtifactSet)
      {c c' : Credential}
      (hCredential : Credential.Alike S c c') :
      Alike S (.sign artifacts c) (.sign artifacts c')
  | publish
      (r : SignedRelease)
      (mode : SigningMode) :
      Alike S (.publish r mode) (.publish r mode)
  | finished
      {result result' : Except Fault Receipt}
      (hResult : Except.Alike Receipt.Alike result result') :
      Alike S (.finished result) (.finished result')

/- The same task is next, and the same stages have been entered. -/
structure Moment.Alike
    (S : Secret → Secret → Prop)
    (R : σ → τ → Prop)
    (m : Moment σ)
    (n : Moment τ) : Prop where
  task : Task.Alike S m.task n.task
  progress : m.progress = n.progress
  world : World.Alike R m.world n.world

/- Actions that end alike leave moments that are alike. -/
theorem Moment.alike_after
    (progress : Progress)
    (entered : List Stage)
    {task : α → Task}
    {task' : β → Task}
    (hTask : ∀ x y, V x y → Task.Alike S (task x) (task' y))
    {a : Action σ α}
    {b : Action τ β}
    (hActions : Action.Alike R V a b)
    {w : World σ}
    {v : World τ}
    (hWorlds : World.Alike R w v) :
    Moment.Alike S R (after progress entered task (a w))
      (after progress entered task' (b v)) := by
  rcases hActions w v hWorlds with ⟨hResult, hNext⟩
  generalize a w = ended at hResult hNext ⊢
  generalize b v = ended' at hResult hNext ⊢
  rcases ended with ⟨result, w'⟩
  rcases ended' with ⟨result', v'⟩
  cases hResult with
  | ok hValue => exact ⟨hTask _ _ hValue, rfl, hNext⟩
  | error f => exact ⟨.finished (.error f), rfl, hNext⟩

namespace Pipeline.Alike

variable {p : Pipeline σ} {q : Pipeline τ}

/- A task that is begun alike ends alike. -/
theorem next
    (hAlike : Pipeline.Alike S R p q)
    {m : Moment σ}
    {n : Moment τ}
    (hMoments : Moment.Alike S R m n) :
    Moment.Alike S R (p.next m) (q.next n) := by
  rcases m with ⟨task, progress, w⟩
  rcases n with ⟨task', progress', v⟩
  rcases hMoments with ⟨hTask, hProgress, hWorlds⟩
  cases hProgress
  cases hTask with
  | checkLock =>
      exact Moment.alike_after _ _ (fun _ _ _ => .assemble)
        hAlike.checkLock hWorlds
  | assemble =>
      apply Moment.alike_after _ _ _ hAlike.assemble hWorlds
      rintro artifacts _ rfl
      exact .passGate artifacts
  | passGate artifacts =>
      exact Moment.alike_after _ _ (fun _ _ _ => .select artifacts)
        hAlike.passGate hWorlds
  | select artifacts =>
      apply Moment.alike_after _ _ _ hAlike.credential hWorlds
      exact fun c c' hCredential => .sign artifacts hCredential
  | sign artifacts hCredential =>
      apply Moment.alike_after _ _ _
        (hAlike.sign hCredential artifacts) hWorlds
      rintro r _ rfl
      rw [hCredential.mode_eq]
      exact .publish r _
  | publish r mode =>
      apply Moment.alike_after _ _ _ (hAlike.publish r mode) hWorlds
      exact fun receipt receipt' hReceipts => .finished (.ok hReceipts)
  | finished hResult => exact ⟨.finished hResult, rfl, hWorlds⟩

/- At all times both runs are alike, by induction on the tasks. -/
theorem moment
    (hAlike : Pipeline.Alike S R p q)
    {w : World σ}
    {v : World τ}
    (hWorlds : World.Alike R w v)
    (n : Nat) :
    Moment.Alike S R (p.moment w n) (q.moment v n) := by
  induction n with
  | zero => exact ⟨.checkLock, hAlike.progress, hWorlds⟩
  | succ n ih => exact hAlike.next ih

/- Both runs end alike, also if they have been made before. -/
theorem run
    (hAlike : Pipeline.Alike S R p q)
    {w : World σ}
    {v : World τ}
    (hWorlds : World.Alike R w v) :
    Except.Alike Receipt.Alike (p.run w).1 (q.run v).1 ∧
      (p.run w).2.1.progress = (q.run v).2.1.progress ∧
      World.Alike R (p.run w).2.2 (q.run v).2.2 := by
  by_cases hInit : p.progress.stage = .init
  · rcases run_eq_moment hInit w with ⟨result, hTask, hRun⟩
    rw [hAlike.progress] at hInit
    rcases run_eq_moment hInit v with ⟨result', hTask', hRun'⟩
    have hLast := hAlike.moment hWorlds 6
    have hTasks := hLast.task
    rw [hTask, hTask'] at hTasks
    rw [hRun, hRun']
    cases hTasks with
    | finished hResult => exact ⟨hResult, hLast.progress, hLast.world⟩
  · have hInit' : q.progress.stage ≠ .init := by
      rw [← hAlike.progress]
      exact hInit
    unfold Pipeline.run
    rw [if_neg hInit, if_neg hInit', hAlike.progress]
    exact ⟨.error _, rfl, hWorlds⟩

end Pipeline.Alike

end ReleasePipeline
