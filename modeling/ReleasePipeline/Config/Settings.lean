import ReleasePipeline.Quality.Settings
import ReleasePipeline.Release.Layout
import ReleasePipeline.Release.Version

/-
  This file defines the configuration of a project: what is
  released, how it is checked, signed and published.  Secrets
  are not part of it; it only names the variables that hold
  them.

  Key definitions include:
    * `ProjectConfig`, `SigningConfig`, `EndpointConfig`
    * `ChannelsConfig`, `ArtifactConfig`, `ArtifactsConfig`
    * `Config`
    * `ArtifactConfig.expand`
-/

------------------------------------------------------------
-- Sections
------------------------------------------------------------

namespace ReleasePipeline

/- What is released.  Fields left out are empty. -/
structure ProjectConfig where
  group : String
  artifact : String
  version : Option String
  name : Option String
  description : String
  url : String
  license : License
  developers : List Developer
  scm : SourceControl
deriving DecidableEq, Repr

/- How releases are signed. -/
structure SigningConfig where
  keyEnv : String
  passphraseEnv : String
  agent : Bool
  keyId : Option String
  program : String
deriving DecidableEq, Repr

/- The signing that is used unless another is configured. -/
def SigningConfig.default : SigningConfig where
  keyEnv := "QUAY_SIGNING_KEY"
  passphraseEnv := "QUAY_SIGNING_PASSWORD"
  agent := false
  keyId := none
  program := "gpg"

/- A repository, and the variables that hold its credentials. -/
structure EndpointConfig where
  url : String
  usernameEnv : String
  passwordEnv : String
deriving DecidableEq, Repr

namespace EndpointConfig

/- The variables that are used unless others are configured. -/
def defaultUsernameEnv : String :=
  "OSSRH_USERNAME"

def defaultPasswordEnv : String :=
  "OSSRH_PASSWORD"

/- A repository with the variables that are used by default. -/
def atUrl (url : String) : EndpointConfig where
  url := url
  usernameEnv := defaultUsernameEnv
  passwordEnv := defaultPasswordEnv

end EndpointConfig

/- Which versions go to which repository. -/
structure ChannelsConfig where
  markers : List String
  snapshot : EndpointConfig
  release : EndpointConfig
deriving DecidableEq, Repr

/- The channels that are used unless others are configured. -/
def ChannelsConfig.default : ChannelsConfig where
  markers := ["-SNAPSHOT"]
  snapshot :=
    .atUrl "https://oss.sonatype.org/content/repositories/snapshots"
  release :=
    .atUrl
      "https://oss.sonatype.org/service/local/staging/deploy/maven2"

/- A build output and the command that produces it. -/
structure ArtifactConfig where
  path : String
  build : List String
deriving DecidableEq, Repr

/- The build outputs of a release. -/
structure ArtifactsConfig where
  binary : ArtifactConfig
  sources : ArtifactConfig
  docs : ArtifactConfig
deriving DecidableEq, Repr

/- The configuration of a project. -/
structure Config where
  project : ProjectConfig
  lockSnapshot : String
  quality : QualityConfig
  signing : SigningConfig
  channels : ChannelsConfig
  timeout : Nat
  artifacts : ArtifactsConfig
deriving DecidableEq, Repr

namespace Config

/- Where the lock snapshot is unless another place is configured. -/
def defaultLockSnapshot : String :=
  "quay.lock"

/- The seconds that an upload may take by default. -/
def defaultTimeout : Nat :=
  60

end Config

------------------------------------------------------------
-- Build Outputs
------------------------------------------------------------

/-
  The path of a build output, in which the artifact and the
  version stand in place of their names in braces.
-/
def ArtifactConfig.expand
    (c : ArtifactConfig)
    (artifact : String)
    (version : Version) : String :=
  Text.replaceAll
    (Text.replaceAll c.path "\x7bartifact\x7d" artifact)
    "\x7bversion\x7d" version.text

/- The configuration of a member. -/
def ArtifactsConfig.member
    (c : ArtifactsConfig) : ArtifactKind → ArtifactConfig
  | .binary => c.binary
  | .sources => c.sources
  | .docs => c.docs

end ReleasePipeline
