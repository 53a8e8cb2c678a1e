import ReleasePipeline.Pipeline.Backend
import ReleasePipeline.Proofs.Host.Actions

/-
  This file proves which actions leave the tree of files as it
  is.  An action does so whether it succeeds or fails, and one
  that succeeds may return something of which more is known,
  such as a signer that leaves the tree as it is in turn.
  Actions that only look leave the whole world as it is.

  Key definitions include:
    * `Action.LeavesTree`, `Action.Idle`
    * `Host.LeavesTree`

  Main declarations:
    * `Action.LeavesTree.bind`
    * `Signer.leavesTree_forCredential`
-/

------------------------------------------------------------
-- Actions
------------------------------------------------------------

namespace ReleasePipeline

namespace Action

variable {σ α β ε : Type}

/-
  The action does not change the tree, and a value that it
  returns has a property.
-/
def LeavesTree
    (a : Action σ α)
    (value : α → Prop) : Prop :=
  ∀ w, (a w).2.tree = w.tree ∧ ∀ x, (a w).1 = .ok x → value x

variable {value : α → Prop} {value' : β → Prop}

/- A second action may rely on what the first has returned. -/
theorem LeavesTree.bind
    {a : Action σ α}
    {k : α → Action σ β}
    (hFirst : a.LeavesTree value)
    (hSecond : ∀ x, value x → (k x).LeavesTree value') :
    LeavesTree (a >>= k) value' := by
  intro w
  have hStep := hFirst w
  rw [bind_apply]
  rcases hResult : a w with ⟨f | x, v⟩
  · rw [hResult] at hStep
    exact ⟨hStep.1, nofun⟩
  · rw [hResult] at hStep
    have hMore := hSecond x (hStep.2 x rfl) v
    exact ⟨hMore.1.trans hStep.1, hMore.2⟩

theorem leavesTree_pure
    {x : α}
    (hValue : value x) :
    LeavesTree (pure x : Action σ α) value := by
  intro w
  refine ⟨rfl, ?_⟩
  rintro y ⟨⟩
  exact hValue

theorem leavesTree_throw
    (f : Fault)
    (value : α → Prop) :
    LeavesTree (throw f : Action σ α) value :=
  fun _ => ⟨rfl, nofun⟩

/- To look at the tree does not change it. -/
theorem leavesTree_inspect (look : FileTree → Except Fault α) :
    LeavesTree (inspect look : Action σ α) fun _ => True :=
  fun _ => ⟨rfl, fun _ _ => trivial⟩

theorem leavesTree_ofResult (r : Except Fault α) :
    LeavesTree (ofResult r : Action σ α) fun _ => True :=
  fun _ => ⟨rfl, fun _ _ => trivial⟩

/- Other words for a failure change nothing else. -/
theorem LeavesTree.refine
    {a : Action σ α}
    (hLeaves : a.LeavesTree value)
    (words : Fault → Fault) :
    (refine words a).LeavesTree value := by
  intro w
  have hStep := hLeaves w
  rw [refine_apply]
  rcases hResult : a w with ⟨f | x, v⟩
  · rw [hResult] at hStep
    exact ⟨hStep.1, nofun⟩
  · rw [hResult] at hStep
    exact hStep

/- The action leaves the world as it is. -/
def Idle (a : Action σ α) : Prop :=
  ∀ w, (a w).2 = w

theorem idle_inspect (look : FileTree → Except Fault α) :
    (inspect look : Action σ α).Idle :=
  fun _ => rfl

theorem idle_ofResult (r : Except Fault α) :
    (ofResult r : Action σ α).Idle :=
  fun _ => rfl

/- What can be had is not part of the world. -/
theorem idle_ask
    (answer : World σ → Except ε Unit)
    (explain : ε → Fault) :
    (ask answer explain).Idle :=
  fun _ => rfl

theorem Idle.leavesTree
    {a : Action σ α}
    (hIdle : a.Idle) :
    a.LeavesTree fun _ => True :=
  fun w => ⟨congrArg World.tree (hIdle w), fun _ _ => trivial⟩

theorem Idle.bind
    {a : Action σ α}
    {k : α → Action σ β}
    (hFirst : a.Idle)
    (hSecond : ∀ x, (k x).Idle) :
    Idle (a >>= k) := by
  intro w
  have hWorld := hFirst w
  rw [bind_apply]
  rcases hResult : a w with ⟨f | x, v⟩
  · rw [hResult] at hWorld
    exact hWorld
  · rw [hResult] at hWorld
    exact (hSecond x v).trans hWorld

end Action

------------------------------------------------------------
-- Hosts
------------------------------------------------------------

/- A host whose programs and requests do not change the tree. -/
structure Host.LeavesTree
    {σ : Type}
    (h : Host σ) : Prop where
  start : ∀ call w, (h.start call w).2.tree = w.tree
  request : ∀ request w, (h.request request w).2.tree = w.tree

variable {σ : Type} {h : Host σ}

/- On such a host, a program does not change the tree. -/
theorem Host.LeavesTree.run
    (hHost : h.LeavesTree)
    (call : Invocation)
    (explain : RunFault → Fault) :
    (h.run call explain).LeavesTree fun _ => True := by
  intro w
  rw [Host.run_apply]
  exact ⟨hHost.start call w, fun _ _ => trivial⟩

/- Nor does a program whose output is asked for. -/
theorem Keyring.leavesTree_outputOf
    (hHost : h.LeavesTree)
    (call : Invocation) :
    (outputOf h call).LeavesTree fun _ => True := by
  apply (hHost.run call _).bind
  intro finished _
  split
  · exact Action.leavesTree_pure trivial
  · exact Action.leavesTree_throw _ _

/- A signer that does not change the tree when it signs. -/
def Signer.LeavesTree (s : Signer σ) : Prop :=
  ∀ data, (s.sign data).LeavesTree fun _ => True

/-
  The signer of a credential leaves the tree as it is, both
  when it is opened and when it signs.
-/
theorem Signer.leavesTree_forCredential
    (hHost : h.LeavesTree)
    (c : Credential) :
    (forCredential h c).LeavesTree Signer.LeavesTree := by
  have hSigns
      (program : String)
      (k : Keyring) :
      (k.signer h program).LeavesTree := by
    intro data
    apply (Keyring.leavesTree_outputOf hHost _).bind
    intro output _
    split
    · exact Action.leavesTree_pure trivial
    · exact Action.leavesTree_throw _ _
  cases c with
  | inMemory key passphrase program =>
      apply (Action.idle_ask _ _).leavesTree.bind
      intro _ _
      apply ((Keyring.leavesTree_outputOf hHost _).refine _).bind
      intro _ _
      exact Action.leavesTree_pure (hSigns _ _)
  | agent key => exact Action.leavesTree_pure (hSigns _ _)

end ReleasePipeline
