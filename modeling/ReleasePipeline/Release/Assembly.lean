import ReleasePipeline.Config.Settings
import ReleasePipeline.Host.Program

/-
  This file defines how the artifacts of a release are put
  together: the build commands are run, then the outputs are
  read once.  The builds do not wait for each other, so any
  order in which they may come about is a schedule, and a
  build that fails does not keep the others from running.

  Key definitions include:
    * `Assembly.build`, `Assembly.buildAll`
    * `Assembly.collect`
    * `Assembly.assemble`
-/

------------------------------------------------------------
-- Builds
------------------------------------------------------------

namespace ReleasePipeline

namespace Assembly

variable {σ : Type}

/- The failure to obtain a member of the release. -/
def missing
    (kind : ArtifactKind)
    (reason : String) : Fault :=
  .release (.artifactMissing kind.name reason)

/- Run the build command of a member, if it has one. -/
def build
    (h : Host σ)
    (root : String)
    (kind : ArtifactKind)
    (command : List String) : Action σ Unit :=
  match command with
  | [] => pure ()
  | program :: arguments => do
      let finished ←
        h.run (.plain program arguments (some root)) fun e =>
          missing kind s!"failed to run `{program}`: {e.cause.message}"
      if finished.succeeded then
        pure ()
      else
        let shown := " ".intercalate command
        throw (missing kind s!"`{shown}` {finished.complaint}")

/-
  Run the build commands in the order of a schedule.  All of
  them are run; the first failure is the one that counts.
-/
def buildAll
    (h : Host σ)
    (root : String)
    (c : ArtifactsConfig) : List ArtifactKind → Action σ Unit
  | [] => pure ()
  | kind :: kinds => fun w =>
      match build h root kind (c.member kind).build w with
      | (.ok (), w) => buildAll h root c kinds w
      | (.error f, w) => (.error f, (buildAll h root c kinds w).2)

------------------------------------------------------------
-- Outputs
------------------------------------------------------------

/- Where the output of a member is. -/
def outputPath
    (root : String)
    (c : ArtifactsConfig)
    (artifact : String)
    (version : Version)
    (kind : ArtifactKind) : String :=
  Path.join root ((c.member kind).expand artifact version)

/- Read the output of a member. -/
def readOutput
    (t : FileTree)
    (kind : ArtifactKind)
    (path : String) : Except Fault Artifact :=
  match t.read path with
  | .ok bytes => .ok { kind, path, bytes }
  | .error e => .error (missing kind s!"{path}: {e.message}")

/- Read all outputs. -/
def collect
    (root : String)
    (c : ArtifactsConfig)
    (artifact : String)
    (version : Version)
    (t : FileTree) : Except Fault ArtifactSet := do
  let output (kind : ArtifactKind) : Except Fault Artifact :=
    readOutput t kind (outputPath root c artifact version kind)
  let binary ← output .binary
  let sources ← output .sources
  let docs ← output .docs
  pure { binary, sources, docs }

/- Run the builds, then read all outputs. -/
def assemble
    (h : Host σ)
    (schedule : List ArtifactKind)
    (root : String)
    (c : ArtifactsConfig)
    (artifact : String)
    (version : Version) : Action σ ArtifactSet := do
  buildAll h root c schedule
  Action.inspect (collect root c artifact version)

end Assembly

end ReleasePipeline
