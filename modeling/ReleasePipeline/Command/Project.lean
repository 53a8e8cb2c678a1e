import ReleasePipeline.Config.Resolution
import ReleasePipeline.Workspace.Graph

/-
  This file defines the project that a command works on: its
  configuration and its workspace.  Either may be missing; a
  command that needs one of them says so.

  Key definitions include:
    * `Project`
    * `Project.load`
    * `Project.plan`
-/

------------------------------------------------------------
-- Projects
------------------------------------------------------------

namespace ReleasePipeline

/- A directory with what is known about it. -/
structure Project where
  root : String
  config : Option Config
  workspace : Option Workspace
deriving DecidableEq, Repr

namespace Project

/- The configuration in a directory, unless there is none. -/
def loadConfig
    (t : FileTree)
    (root : String) : Except Fault (Option Config) :=
  match Config.find? t root with
  | none => .ok none
  | some _ => (Config.load t root).map some

/- The workspace in a directory, unless there is none. -/
def loadWorkspace
    {σ : Type}
    (h : Host σ)
    (root : String) : Action σ (Option Workspace) := do
  let found ←
    Action.inspect fun t =>
      .ok (t.present (Workspace.manifestPath root))
  if found then
    let w ← Workspace.load h root
    pure (some w)
  else
    pure none

/- Look at a directory, at its configuration first. -/
def load
    {σ : Type}
    (h : Host σ)
    (root : String) : Action σ Project := do
  let config ← Action.inspect (loadConfig · root)
  let workspace ← loadWorkspace h root
  pure { root, config, workspace }

/- The configuration, which has to be there. -/
def requireConfig (p : Project) : Except Fault Config :=
  match p.config with
  | some c => .ok c
  | none => .error (.config (.notFound p.root))

/- The workspace, which has to be there. -/
def requireWorkspace (p : Project) : Except Fault Workspace :=
  match p.workspace with
  | some w => .ok w
  | none =>
      .error (.helpful s!"No Cargo.toml found in {p.root}"
        "The resolved dependency graph is read from cargo metadata")

/- The plan of a release of the project. -/
def plan
    (p : Project)
    (asked : Option String)
    (env : Environment) : Except Fault ReleasePlan := do
  let c ← p.requireConfig
  c.resolve p.root asked
    (p.workspace.bind Workspace.packageVersion?) env

end Project

end ReleasePipeline
