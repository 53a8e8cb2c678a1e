import ReleasePipeline.Publish.Upload
import ReleasePipeline.Signing.Keyring
import ReleasePipeline.Workspace.Graph

/-
  This file defines what a release does not do by itself: it
  asks for the dependency graph, for a signer and for a
  repository.  The backend of a workspace gives them; a
  recorded backend also remembers every call in its order,
  and every file that was stored.

  Key definitions include:
    * `Backend`
    * `Backend.ofWorkspace`
    * `Call`, `Recorded`
    * `Backend.recorded`
-/

------------------------------------------------------------
-- Backends
------------------------------------------------------------

namespace ReleasePipeline

/- The collaborators of a release. -/
structure Backend (σ : Type) where
  resolvedGraph : Action σ ResolvedGraph
  signer : Credential → Action σ (Signer σ)
  repository : PublishTarget → Nat → Action σ (Repository σ)

/-
  The graph of a workspace, the signing program, and local or
  remote repositories.
-/
def Backend.ofWorkspace
    {σ : Type}
    (h : Host σ)
    (w : Workspace) : Backend σ where
  resolvedGraph := Action.inspect w.resolvedGraph
  signer := Signer.forCredential h
  repository := Repository.openTarget h

------------------------------------------------------------
-- Calls
------------------------------------------------------------

/- A call that a release makes. -/
inductive Call where
  | graph
  | signer (credential : Credential)
  | sign (data : Bytes)
  | repository (target : PublishTarget) (timeout : Nat)
  | put (path : String) (bytes : Bytes)
  | get (path : String)
deriving DecidableEq, Repr

/-
  The calls made so far and the files that were stored by
  them, beside the state outside of the tree.
-/
structure Recorded (σ : Type) where
  calls : List Call
  stored : List (String × Bytes) := []
  outside : σ

variable {σ α : Type}

/- An action in a world that has a record of calls. -/
def Action.beside (a : Action σ α) : Action (Recorded σ) α :=
  fun w =>
    let (result, v) :=
      a { tree := w.tree, outside := w.outside.outside }
    (result,
      { tree := v.tree
        outside := { w.outside with outside := v.outside } })

/- Record a call and then make it. -/
def Action.recorded
    (call : Call)
    (a : Action σ α) : Action (Recorded σ) α :=
  fun w =>
    Action.beside a
      { w with
        outside :=
          { w.outside with calls := w.outside.calls ++ [call] } }

/- Note a file that has been stored. -/
def Action.noteStored
    (path : String)
    (bytes : Bytes) : Action (Recorded σ) Unit :=
  fun w =>
    (.ok (),
      { w with
        outside :=
          { w.outside with
            stored := w.outside.stored ++ [(path, bytes)] } })

/- A host in a world that has a record of calls. -/
def Host.beside (h : Host σ) : Host (Recorded σ) where
  start call w :=
    let (result, v) :=
      h.start call { tree := w.tree, outside := w.outside.outside }
    (result,
      { tree := v.tree
        outside := { w.outside with outside := v.outside } })
  keyring permissions w :=
    h.keyring permissions
      { tree := w.tree, outside := w.outside.outside }
  client w := h.client { tree := w.tree, outside := w.outside.outside }
  request request w :=
    let (result, v) :=
      h.request request
        { tree := w.tree, outside := w.outside.outside }
    (result,
      { tree := v.tree
        outside := { w.outside with outside := v.outside } })
  clock w := h.clock { tree := w.tree, outside := w.outside.outside }

/- A signer whose calls are recorded. -/
def Signer.recorded (s : Signer σ) : Signer (Recorded σ) where
  sign data := Action.recorded (.sign data) (s.sign data)

/-
  A repository whose calls are recorded.  A file counts as
  stored when its call has succeeded.
-/
def Repository.recorded
    (r : Repository σ) : Repository (Recorded σ) where
  put path bytes := do
    Action.recorded (.put path bytes) (r.put path bytes)
    Action.noteStored path bytes
  get path := Action.recorded (.get path) (r.get path)
  location := r.location

/- A backend whose calls are recorded. -/
def Backend.recorded (b : Backend σ) : Backend (Recorded σ) where
  resolvedGraph := Action.recorded .graph b.resolvedGraph
  signer credential := do
    let s ← Action.recorded (.signer credential) (b.signer credential)
    pure s.recorded
  repository target timeout := do
    let r ←
      Action.recorded (.repository target timeout)
        (b.repository target timeout)
    pure r.recorded

end ReleasePipeline
