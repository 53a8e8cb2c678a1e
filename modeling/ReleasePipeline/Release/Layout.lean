import ReleasePipeline.Release.Artifact
import ReleasePipeline.Release.Metadata

/-
  This file defines where the files of a release are stored
  in a repository: below the parts of the group, the artifact
  and the version, under names that begin with the artifact
  and the version.

  Key definitions include:
    * `Layout`
    * `Layout.directory`
    * `Layout.artifactPath`
    * `Layout.metadataPath`
-/

------------------------------------------------------------
-- Layout
------------------------------------------------------------

namespace ReleasePipeline

/- What the remote names of a release are made of. -/
structure Layout where
  group : String
  artifact : String
  version : String
  metadataFile : String
deriving DecidableEq, Repr

namespace Layout

/- The layout of a release. -/
def ofMetadata (m : ReleaseMetadata) : Layout where
  group := m.group
  artifact := m.artifact
  version := m.version
  metadataFile := m.fileName

/- The parts of the group as directories. -/
def groupPath (l : Layout) : String :=
  Text.replaceAll l.group "." "/"

/- The directory of a release. -/
def directory (l : Layout) : String :=
  s!"{l.groupPath}/{l.artifact}/{l.version}"

/- The part of a remote name that tells the member. -/
def suffixOf (kind : ArtifactKind) : String :=
  match kind.classifier with
  | some classifier => s!"-{classifier}"
  | none => ""

/- Where an artifact is stored. -/
def artifactPath
    (l : Layout)
    (a : Artifact) : String :=
  s!"{l.directory}/{l.artifact}-{l.version}{suffixOf a.kind}.{a.extension}"

/- Where the metadata document is stored. -/
def metadataPath (l : Layout) : String :=
  s!"{l.directory}/{l.metadataFile}"

end Layout

end ReleasePipeline
