import ReleasePipeline.Digest.Sha256
import ReleasePipeline.Files.Path

/-
  This file defines the artifacts of a release: three build
  outputs, read once, with their digests.

  Key definitions include:
    * `ArtifactKind`
    * `Artifact`
    * `Artifact.extension`
    * `ArtifactSet`, `ArtifactSet.members`
-/

------------------------------------------------------------
-- Kinds
------------------------------------------------------------

namespace ReleasePipeline

/- The three members of a release. -/
inductive ArtifactKind where
  | binary
  | sources
  | docs
deriving DecidableEq, Repr

namespace ArtifactKind

/- The members in the order in which they are published. -/
def all : List ArtifactKind :=
  [.binary, .sources, .docs]

/- The name of a member. -/
def name : ArtifactKind → String
  | .binary => "binary"
  | .sources => "sources"
  | .docs => "docs"

/- What sets the remote name of a member apart. -/
def classifier : ArtifactKind → Option String
  | .binary => none
  | .sources => some "sources"
  | .docs => some "docs"

end ArtifactKind

------------------------------------------------------------
-- Artifacts
------------------------------------------------------------

/- A build output that has been read. -/
structure Artifact where
  kind : ArtifactKind
  path : String
  bytes : Bytes
deriving DecidableEq, Repr

namespace Artifact

/- The digest of the contents. -/
def sha256 (a : Artifact) : String :=
  Sha256.hexDigest a.bytes

/-
  The extension that the remote name is given.  A compressed
  archive has a double one; a name without an extension is
  given one.
-/
def extension (a : Artifact) : String :=
  let name := (Path.fileName? a.path).getD ""
  if Text.endsWith name ".tar.gz" then
    "tar.gz"
  else
    (Path.extension? a.path).getD "bin"

end Artifact

/- The artifacts of one release. -/
structure ArtifactSet where
  binary : Artifact
  sources : Artifact
  docs : Artifact
deriving DecidableEq, Repr

/- The artifacts in the order in which they are published. -/
def ArtifactSet.members (s : ArtifactSet) : List Artifact :=
  [s.binary, s.sources, s.docs]

end ReleasePipeline
