import ReleasePipeline.Fault
import ReleasePipeline.Files.Tree

/-
  This file defines what a run acts on and what an action is.
  A run sees the tree of files; whatever else there is has a
  state of any type, of which only the host knows more.  An
  action that fails keeps what it has changed so far.

  Key definitions include:
    * `World`
    * `Action`
    * `Action.ofResult`, `Action.inspect`
    * `Action.update`, `Action.updatePartly`
    * `Action.ask`
    * `Action.refine`
-/

------------------------------------------------------------
-- Worlds
------------------------------------------------------------

namespace ReleasePipeline

/- The tree of files and everything outside of it. -/
structure World (σ : Type) where
  tree : FileTree
  outside : σ

/- A step that may fail and leaves a changed world behind. -/
abbrev Action (σ α : Type) : Type :=
  ExceptT Fault (StateM (World σ)) α

------------------------------------------------------------
-- Actions
------------------------------------------------------------

namespace Action

variable {σ α ε : Type}

/- Return a result and change nothing. -/
def ofResult (r : Except Fault α) : Action σ α :=
  fun w => (r, w)

/- Look at the tree of files. -/
def inspect
    (look : FileTree → Except Fault α) : Action σ α :=
  fun w => (look w.tree, w)

/- Change the tree of files, or leave it as it is and fail. -/
def update
    (change : FileTree → Except Fault FileTree) : Action σ Unit :=
  fun w =>
    match change w.tree with
    | .ok tree => (.ok (), { w with tree })
    | .error f => (.error f, w)

/- Change the tree of files; a failure may have changed it too. -/
def updatePartly
    (change : FileTree → Except Fault Unit × FileTree) :
    Action σ Unit :=
  fun w =>
    let (result, tree) := change w.tree
    (result, { w with tree })

/- Ask whether something can be had, and explain it if not. -/
def ask
    (answer : World σ → Except ε Unit)
    (explain : ε → Fault) : Action σ Unit :=
  fun w => ((answer w).mapError explain, w)

/- Put a failure into other words. -/
def refine
    (words : Fault → Fault)
    (a : Action σ α) : Action σ α :=
  fun w =>
    match a w with
    | (.ok x, w) => (.ok x, w)
    | (.error f, w) => (.error (words f), w)

end Action

end ReleasePipeline
