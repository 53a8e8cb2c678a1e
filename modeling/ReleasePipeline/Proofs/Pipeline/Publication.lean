import ReleasePipeline.Pipeline.Run
import ReleasePipeline.Proofs.Publish.Storing

/-
  This file proves what the last task of a successful release
  has done.  It has published the metadata of the plan, and
  in a local repository it has stored its files one after
  another.

  Key definitions include:
    * `Pipeline.OpensBelow`

  Main declarations:
    * `Pipeline.publish_of_run`
    * `Pipeline.stores_of_publication`
-/

------------------------------------------------------------
-- The Last Task
------------------------------------------------------------

namespace ReleasePipeline

namespace Pipeline

variable {σ : Type} {p : Pipeline σ}

/- A signed release has the metadata of its plan. -/
theorem sign_eq_ok
    {c : Credential}
    {artifacts : ArtifactSet}
    {r : SignedRelease}
    {w v : World σ}
    (hSign : p.sign c artifacts w = (.ok r, v)) :
    r.metadata = p.plan.metadata ∧
      r.document = p.plan.metadata.document := by
  rcases Action.bind_eq_ok hSign with ⟨s, u₁, -, hSign⟩
  rcases Action.bind_eq_ok hSign with ⟨binary, u₂, -, hSign⟩
  rcases Action.bind_eq_ok hSign with ⟨sources, u₃, -, hSign⟩
  rcases Action.bind_eq_ok hSign with ⟨docs, u₄, -, hSign⟩
  rcases Action.bind_eq_ok hSign with ⟨document, u₅, -, hPure⟩
  rw [Action.pure_apply, Prod.mk.injEq, Except.ok.injEq] at hPure
  rw [← hPure.1]
  dsimp only
  exact ⟨rfl, rfl⟩

/- A step of a run that has succeeded, and the action in it. -/
theorem perform_eq_ok
    {α : Type}
    {a : Action σ α}
    {x : α}
    {c d : Course σ}
    (hPerform : perform a c = (.ok x, d)) :
    a c.world = (.ok x, d.world) := by
  unfold perform at hPerform
  rcases hStep : a c.world with ⟨result, world⟩
  rw [hStep] at hPerform
  cases hPerform
  rfl

/- A release has succeeded when its publication has. -/
theorem publish_of_run
    {w : World σ}
    {receipt : Receipt}
    (hRun : (p.run w).1 = .ok receipt) :
    ∃ r mode u,
      r.metadata = p.plan.metadata ∧
      r.document = p.plan.metadata.document ∧
      p.publish r mode u = (.ok receipt, (p.run w).2.2) := by
  unfold run at hRun ⊢
  split at hRun
  · next hInit =>
      rw [if_pos hInit]
      rcases hExecute :
          p.execute { progress := p.progress, world := w } with
        ⟨f | found, course⟩
      · rw [hExecute] at hRun
        cases hRun
      · rw [hExecute] at hRun
        cases hRun
        rcases Action.bind_eq_ok hExecute with ⟨_, c₁, -, hExecute⟩
        rcases Action.bind_eq_ok hExecute with ⟨_, c₂, -, hExecute⟩
        rcases Action.bind_eq_ok hExecute with
          ⟨artifacts, c₃, -, hExecute⟩
        rcases Action.bind_eq_ok hExecute with ⟨_, c₄, -, hExecute⟩
        rcases Action.bind_eq_ok hExecute with ⟨_, c₅, -, hExecute⟩
        rcases Action.bind_eq_ok hExecute with
          ⟨credential, c₆, -, hExecute⟩
        rcases Action.bind_eq_ok hExecute with
          ⟨r, c₇, hSign, hExecute⟩
        rcases Action.bind_eq_ok hExecute with ⟨_, c₈, -, hExecute⟩
        rcases Action.bind_eq_ok hExecute with
          ⟨receipt, c₉, hPublish, hExecute⟩
        rcases Action.bind_eq_ok hExecute with ⟨_, c₁₀, hEnter, hPure⟩
        cases hEnter
        cases hPure
        rcases sign_eq_ok (perform_eq_ok hSign) with
          ⟨hMetadata, hDocument⟩
        exact ⟨r, credential.mode, c₈.world, hMetadata, hDocument,
          perform_eq_ok hPublish⟩
  · cases hRun

------------------------------------------------------------
-- Local Repositories
------------------------------------------------------------

/-
  The repository of a target stores below a directory, and to
  open it changes no file.
-/
def OpensBelow
    (p : Pipeline σ)
    (target : PublishTarget)
    (directory : String) : Prop :=
  ∀ u v repository,
    p.backend.repository target p.plan.timeout u =
        (.ok repository, v) →
      repository.StoresBelow directory ∧ v.tree = u.tree

/- A publication in a local repository stores its files there. -/
theorem stores_of_publication
    {target : PublishTarget}
    (hRoute : p.plan.router.route p.plan.version = .ok target)
    {directory : String}
    (hOpens : p.OpensBelow target directory)
    {r : SignedRelease}
    {mode : SigningMode}
    {receipt : Receipt}
    {u v : World σ}
    (hPublish : p.publish r mode u = (.ok receipt, v)) :
    Repository.Stores directory
      (uploadPlan (Layout.ofMetadata r.metadata) r) u.tree v.tree := by
  unfold publish at hPublish
  rw [hRoute] at hPublish
  rcases Action.bind_eq_ok hPublish with ⟨found, u₁, hTarget, hRest⟩
  cases hTarget
  rcases Action.bind_eq_ok hRest with ⟨repository, u₂, hOpen, hRest⟩
  rcases Action.bind_eq_ok hRest with
    ⟨uploaded, u₃, hUpload, hRest⟩
  rcases Action.bind_eq_ok hRest with ⟨clock, u₄, hClock, hPure⟩
  cases hClock
  have hEnd : u₃ = v := congrArg Prod.snd hPure
  subst hEnd
  rcases hOpens u u₂ repository hOpen with ⟨hBelow, hTree⟩
  rw [← hTree]
  exact Repository.stores_of_uploadAll hBelow hUpload

end Pipeline

end ReleasePipeline
