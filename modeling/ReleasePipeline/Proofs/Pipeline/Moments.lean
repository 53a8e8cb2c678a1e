import ReleasePipeline.Proofs.Pipeline.Script

/-
  This file cuts a run into moments.  Between two moments one
  task is done; the moment says which task is next and what
  there is at hand for it.  The last moment of a run is the
  outcome of the run.

  Key definitions include:
    * `Task`, `Moment`
    * `Pipeline.next`, `Pipeline.moment`
    * `Pipeline.again`

  Main declarations:
    * `Action.Follows.after_cases`
    * `Pipeline.run_eq_moment`
    * `Pipeline.moment_invariant`
-/

------------------------------------------------------------
-- Moments
------------------------------------------------------------

namespace ReleasePipeline

/- What a run does next, with what it has at hand for it. -/
inductive Task where
  | checkLock
  | assemble
  | passGate (artifacts : ArtifactSet)
  | select (artifacts : ArtifactSet)
  | sign (artifacts : ArtifactSet) (c : Credential)
  | publish (r : SignedRelease) (mode : SigningMode)
  | finished (result : Except Fault Receipt)

/- Where a run stands between two tasks. -/
structure Moment (σ : Type) where
  task : Task
  progress : Progress
  world : World σ

namespace Moment

variable {σ α : Type}

/-
  The moment after an action: on success the stages that are
  then entered and the task that is then next; on failure the
  end of the run.
-/
def after
    (progress : Progress)
    (entered : List Stage)
    (task : α → Task) :
    Except Fault α × World σ → Moment σ
  | (.ok x, world) =>
      { task := task x
        progress := entered.foldl Progress.enter progress
        world }
  | (.error f, world) =>
      { task := .finished (.error f)
        progress := progress.enter (.failed (Pipeline.failureKind f))
        world }

end Moment

/-
  The moment after an action that follows a script: either all
  of its calls were made and the next task is there, or the
  first of them were made and the run is over.
-/
theorem Action.Follows.after_cases
    {σ α : Type}
    {a : Action (Recorded σ) α}
    {script : List Call}
    {files : List (String × Bytes)}
    {value : α → Prop}
    (hFollows : a.Follows script files value)
    (progress : Progress)
    (entered : List Stage)
    (task : α → Task)
    (w : World (Recorded σ)) :
    ∃ made kept v,
      v.outside.calls = w.outside.calls ++ made ∧
      v.outside.stored = w.outside.stored ++ kept ∧
      made <+: script ∧ kept <+: files ∧
      ((∃ x, value x ∧ made = script ∧ kept = files ∧
          a w = (.ok x, v) ∧
          Moment.after progress entered task (a w) =
            { task := task x
              progress := entered.foldl Progress.enter progress
              world := v }) ∨
        ∃ f,
          Moment.after progress entered task (a w) =
            { task := .finished (.error f)
              progress :=
                progress.enter (.failed (Pipeline.failureKind f))
              world := v }) := by
  rcases hRun : a w with ⟨result, v⟩
  rcases hFollows w result v hRun with
    ⟨made, kept, hCalls, hStored, hMade, hKept, hAll⟩
  refine ⟨made, kept, v, hCalls, hStored, hMade, hKept, ?_⟩
  cases result with
  | error f => exact .inr ⟨f, rfl⟩
  | ok x =>
      rcases hAll x rfl with ⟨hScript, hFiles, hValue⟩
      exact .inl ⟨x, hValue, hScript, hFiles, rfl, rfl⟩

namespace Pipeline

variable {σ α : Type}

/- Do the next task. -/
def next
    (p : Pipeline σ)
    (m : Moment σ) : Moment σ :=
  match m.task with
  | .checkLock =>
      .after m.progress [.lockChecked] (fun _ => .assemble)
        (p.checkLock m.world)
  | .assemble =>
      .after m.progress [] .passGate (p.assemble m.world)
  | .passGate artifacts =>
      .after m.progress [.gatePassed] (fun _ => .select artifacts)
        (p.passGate m.world)
  | .select artifacts =>
      .after m.progress [] (.sign artifacts) (p.credential m.world)
  | .sign artifacts c =>
      .after m.progress [.signed] (.publish · c.mode)
        (p.sign c artifacts m.world)
  | .publish r mode =>
      .after m.progress [.published] (fun x => .finished (.ok x))
        (p.publish r mode m.world)
  | .finished _ => m

/- Where a run stands after so many tasks. -/
def moment
    (p : Pipeline σ)
    (w : World σ) : Nat → Moment σ
  | 0 => { task := .checkLock, progress := p.progress, world := w }
  | n + 1 => p.next (p.moment w n)

/-
  What holds at the start and is kept by every task holds at
  all times.
-/
theorem moment_invariant
    {p : Pipeline σ}
    {w : World σ}
    {holds : Moment σ → Prop}
    (hStart : holds (p.moment w 0))
    (hNext : ∀ m, holds m → holds (p.next m))
    (n : Nat) :
    holds (p.moment w n) := by
  induction n with
  | zero => exact hStart
  | succ n ih => exact hNext _ ih

------------------------------------------------------------
-- Runs
------------------------------------------------------------

/- What the pipeline of a plan is made of. -/
theorem ofPlan_fields
    {plan : ReleasePlan}
    {host : Host σ}
    {backend : Backend σ}
    {p : Pipeline σ}
    (hPlan : ofPlan plan host backend = .ok p) :
    p.plan = plan ∧ p.host = host ∧ p.backend = backend ∧
      p.progress = .start := by
  unfold ofPlan at hPlan
  cases hValid : plan.metadata.validate with
  | error f =>
      rw [hValid] at hPlan
      cases hPlan
  | ok u =>
      rw [hValid] at hPlan
      cases hPlan
      exact ⟨rfl, rfl, rfl, rfl⟩

theorem init_of_start
    {p : Pipeline σ}
    (hStart : p.progress = .start) :
    p.progress.stage = .init := by
  rw [hStart]
  rfl

/- The pipeline of a plan has complete metadata. -/
theorem validate_of_ofPlan
    {plan : ReleasePlan}
    {host : Host σ}
    {backend : Backend σ}
    {p : Pipeline σ}
    (hPlan : ofPlan plan host backend = .ok p) :
    plan.metadata.validate = .ok () := by
  rcases Except.bind_eq_ok hPlan with ⟨⟨⟩, hValid, -⟩
  exact hValid

theorem perform_apply
    (a : Action σ α)
    (c : Course σ) :
    perform a c = ((a c.world).1, { c with world := (a c.world).2 }) :=
  rfl

theorem enter_apply
    (s : Stage)
    (c : Course σ) :
    (enter s : Staged σ Unit) c =
      (.ok (), { c with progress := c.progress.enter s }) := rfl

/-
  A run that has not been made before does six tasks, unless
  one of them fails, and ends as its last moment says.
-/
theorem run_eq_moment
    {p : Pipeline σ}
    (hInit : p.progress.stage = .init)
    (w : World σ) :
    ∃ result,
      (p.moment w 6).task = .finished result ∧
      p.run w =
        (result, { p with progress := (p.moment w 6).progress },
          (p.moment w 6).world) := by
  unfold run execute
  rw [if_pos hInit]
  simp only [moment, Action.bind_apply, perform_apply, enter_apply]
  rcases hLock : p.checkLock w with ⟨f | ⟨⟩, w₁⟩
  · exact ⟨.error f, by simp [next, Moment.after, hLock]⟩
  rcases hAssemble : p.assemble w₁ with ⟨f | artifacts, w₂⟩
  · exact ⟨.error f, by
      simp [next, Moment.after, hLock, hAssemble]⟩
  rcases hGate : p.passGate w₂ with ⟨f | report, w₃⟩
  · exact ⟨.error f, by
      simp [next, Moment.after, hLock, hAssemble, hGate]⟩
  rcases hSelect : p.credential w₃ with ⟨f | c, w₄⟩
  · exact ⟨.error f, by
      simp [next, Moment.after, hLock, hAssemble, hGate, hSelect]⟩
  rcases hSign : p.sign c artifacts w₄ with ⟨f | r, w₅⟩
  · exact ⟨.error f, by
      simp [next, Moment.after, hLock, hAssemble, hGate, hSelect,
        hSign]⟩
  rcases hPublish : p.publish r c.mode w₅ with ⟨f | receipt, w₆⟩
  · exact ⟨.error f, by
      simp [next, Moment.after, hLock, hAssemble, hGate, hSelect,
        hSign, hPublish]⟩
  · exact ⟨.ok receipt, by
      simp [next, Moment.after, hLock, hAssemble, hGate, hSelect,
        hSign, hPublish, Action.pure_apply]⟩

/- A run that has been made is refused and changes nothing. -/
theorem run_of_made
    {p : Pipeline σ}
    (hMade : p.progress.stage ≠ .init)
    (w : World σ) :
    ∃ f, p.run w = (.error f, p, w) := by
  unfold run
  rw [if_neg hMade]
  exact ⟨_, rfl⟩

/- The pipeline and the world after so many runs. -/
def again
    (p : Pipeline σ)
    (w : World σ) : Nat → Pipeline σ × World σ
  | 0 => (p, w)
  | n + 1 => ((p.again w n).1.run (p.again w n).2).2

end Pipeline

end ReleasePipeline
