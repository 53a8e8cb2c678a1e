import ReleasePipeline.Host.Program
import ReleasePipeline.Lock.Drift
import ReleasePipeline.Toml.Reader
import ReleasePipeline.Workspace.Listing

/-
  This file defines the dependency graph of a workspace: the
  packages that are not members, with the checksums that the
  lock file of the workspace records for them.

  Key definitions include:
    * `Workspace.load`
    * `Workspace.checksum?`
    * `Workspace.resolvedGraph`
-/

------------------------------------------------------------
-- Loading
------------------------------------------------------------

namespace ReleasePipeline

namespace Workspace

/- The manifest of the workspace in a directory. -/
def manifestPath (root : String) : String :=
  Path.join root "Cargo.toml"

/- The command that prints the listing of a workspace. -/
def listingCall (root : String) : Invocation :=
  .plain "cargo"
    ["metadata", "--format-version", "1", "--manifest-path",
      manifestPath root]
    none

/- Obtain the listing of the workspace in a directory. -/
def load
    {σ : Type}
    (h : Host σ)
    (root : String) : Action σ Workspace := do
  let finished ←
    h.run (listingCall root) fun e => fault e.cause.message
  if finished.succeeded then
    Action.ofResult (ofOutput finished.output)
  else
    throw (fault (Text.trim (Utf8.decodeLossy finished.errors)))

------------------------------------------------------------
-- Checksums
------------------------------------------------------------

/- A checksum, for a name and a version. -/
structure Checksum where
  name : String
  version : String
  sum : String
deriving DecidableEq, Repr

/- The text that a key of a table stands for. -/
def textAt
    (entries : Toml.Entries)
    (key : String) : Option String :=
  match entries.lookup key with
  | some (.text s) => some s
  | _ => none

/- The checksum in a table, if name and version are there too. -/
def checksumOf? (entries : Toml.Entries) : Option Checksum := do
  let name ← textAt entries "name"
  let version ← textAt entries "version"
  let sum ← textAt entries "checksum"
  pure { name, version, sum }

/- The checksums of a lock file, in the order of its tables. -/
def checksumsOf (entries : Toml.Entries) : List Checksum :=
  match entries.lookup "package" with
  | some (.tables elements) => elements.filterMap checksumOf?
  | _ => []

/- The checksum that is recorded last for a package. -/
def checksum?
    (sums : List Checksum)
    (name version : String) : Option String :=
  (sums.reverse.find? fun c =>
    c.name == name && c.version == version).map (·.sum)

/- The lock file of the workspace. -/
def lockFilePath (w : Workspace) : String :=
  Path.join w.directory "Cargo.lock"

/- Read the checksums of a workspace; without a file there are none. -/
def readChecksums
    (w : Workspace)
    (t : FileTree) : Except Fault (List Checksum) :=
  if t.present w.lockFilePath then do
    let text ←
      ioContext s!"Failed to read {w.lockFilePath}"
        (t.readText w.lockFilePath)
    match Toml.read? text with
    | some entries => pure (checksumsOf entries)
    | none =>
        withContext s!"Failed to parse {w.lockFilePath}"
          (.error (.plain "TOML parse error: the file is malformed"))
  else
    .ok []

------------------------------------------------------------
-- The Graph
------------------------------------------------------------

/- What is locked of a package. -/
def lockEntry
    (sums : List Checksum)
    (p : Package) : LockEntry where
  coordinate := p.name
  package :=
    { version := p.version, checksum := checksum? sums p.name p.version }

/- The graph of the packages that are not members. -/
def graphWith
    (w : Workspace)
    (sums : List Checksum) : ResolvedGraph :=
  .ofEntries ((w.packages.filter (!w.isMember ·)).map (lockEntry sums))

/- The dependency graph of a workspace. -/
def resolvedGraph
    (w : Workspace)
    (t : FileTree) : Except Fault ResolvedGraph := do
  let sums ← w.readChecksums t
  pure (w.graphWith sums)

end Workspace

end ReleasePipeline
