import ReleasePipeline.Config.Settings

/-
  This file defines how a configuration is read from a
  document, with the defaults of what is left out, and how it
  is written as one.

  Key definitions include:
    * `Config.ofDatum`
    * `Config.toDatum`
-/

------------------------------------------------------------
-- Reading
------------------------------------------------------------

namespace ReleasePipeline

/- Read what is released. -/
def ProjectConfig.ofDatum
    (dialect : Datum.Dialect)
    (d : Datum) : Option ProjectConfig := do
  let f ← d.fields? dialect
    ["group", "artifact", "version", "name", "description",
      "url", "license", "developers", "scm"]
  let group ← Datum.textOrEmpty (f "group")
  let artifact ← Datum.textOrEmpty (f "artifact")
  let version ← Datum.optionalText (f "version")
  let name ← Datum.optionalText (f "name")
  let description ← Datum.textOrEmpty (f "description")
  let url ← Datum.textOrEmpty (f "url")
  let license ←
    Datum.orElse (License.ofDatum dialect) License.default
      (f "license")
  let developers ←
    Datum.orElse (Datum.list? (Developer.ofDatum dialect)) []
      (f "developers")
  let scm ←
    Datum.orElse (SourceControl.ofDatum dialect)
      SourceControl.default (f "scm")
  pure { group, artifact, version, name, description, url,
         license, developers, scm }

/- Read where the lock snapshot is. -/
def Config.lockOfDatum
    (dialect : Datum.Dialect)
    (d : Datum) : Option String := do
  let f ← d.fields? dialect ["snapshot"]
  Datum.orElse Datum.text? Config.defaultLockSnapshot (f "snapshot")

/- Read how releases are signed. -/
def SigningConfig.ofDatum
    (dialect : Datum.Dialect)
    (d : Datum) : Option SigningConfig := do
  let f ← d.fields? dialect
    ["key_env", "passphrase_env", "agent", "key_id", "program"]
  let keyEnv ←
    Datum.orElse Datum.text? default.keyEnv (f "key_env")
  let passphraseEnv ←
    Datum.orElse Datum.text? default.passphraseEnv
      (f "passphrase_env")
  let agent ←
    Datum.orElse Datum.boolean? default.agent (f "agent")
  let keyId ← Datum.optionalText (f "key_id")
  let program ←
    Datum.orElse Datum.text? default.program (f "program")
  pure { keyEnv, passphraseEnv, agent, keyId, program }

/- Read a repository; its address must be given. -/
def EndpointConfig.ofDatum
    (dialect : Datum.Dialect)
    (d : Datum) : Option EndpointConfig := do
  let f ← d.fields? dialect ["url", "username_env", "password_env"]
  let url ← Datum.required Datum.text? (f "url")
  let usernameEnv ←
    Datum.orElse Datum.text? defaultUsernameEnv (f "username_env")
  let passwordEnv ←
    Datum.orElse Datum.text? defaultPasswordEnv (f "password_env")
  pure { url, usernameEnv, passwordEnv }

/- Read the channels. -/
def ChannelsConfig.ofDatum
    (dialect : Datum.Dialect)
    (d : Datum) : Option ChannelsConfig := do
  let f ← d.fields? dialect
    ["prerelease_markers", "snapshot", "release"]
  let markers ←
    Datum.orElse Datum.texts? default.markers
      (f "prerelease_markers")
  let snapshot ←
    Datum.orElse (EndpointConfig.ofDatum dialect) default.snapshot
      (f "snapshot")
  let release ←
    Datum.orElse (EndpointConfig.ofDatum dialect) default.release
      (f "release")
  pure { markers, snapshot, release }

/- Read how long an upload may take. -/
def Config.timeoutOfDatum
    (dialect : Datum.Dialect)
    (d : Datum) : Option Nat := do
  let f ← d.fields? dialect ["timeout_secs"]
  Datum.orElse (Datum.bounded? (Nat.pow 2 64)) Config.defaultTimeout
    (f "timeout_secs")

/- Read a build output; its path must be given. -/
def ArtifactConfig.ofDatum
    (dialect : Datum.Dialect)
    (d : Datum) : Option ArtifactConfig := do
  let f ← d.fields? dialect ["path", "build"]
  let path ← Datum.required Datum.text? (f "path")
  let build ← Datum.orElse Datum.texts? [] (f "build")
  pure { path, build }

/- Read the build outputs; all must be given. -/
def ArtifactsConfig.ofDatum
    (dialect : Datum.Dialect)
    (d : Datum) : Option ArtifactsConfig := do
  let f ← d.fields? dialect ["binary", "sources", "docs"]
  let member (name : String) : Option ArtifactConfig :=
    Datum.required (ArtifactConfig.ofDatum dialect) (f name)
  let binary ← member "binary"
  let sources ← member "sources"
  let docs ← member "docs"
  pure { binary, sources, docs }

/- Read a configuration. -/
def Config.ofDatum
    (dialect : Datum.Dialect)
    (d : Datum) : Option Config := do
  let f ← d.fields? dialect
    ["project", "lock", "quality", "signing", "channels",
      "publish", "artifacts"]
  let project ←
    Datum.required (ProjectConfig.ofDatum dialect) (f "project")
  let lockSnapshot ←
    Datum.orElse (lockOfDatum dialect) defaultLockSnapshot (f "lock")
  let quality ←
    Datum.orElse (QualityConfig.ofDatum dialect)
      QualityConfig.default (f "quality")
  let signing ←
    Datum.orElse (SigningConfig.ofDatum dialect)
      SigningConfig.default (f "signing")
  let channels ←
    Datum.orElse (ChannelsConfig.ofDatum dialect)
      ChannelsConfig.default (f "channels")
  let timeout ←
    Datum.orElse (timeoutOfDatum dialect) defaultTimeout
      (f "publish")
  let artifacts ←
    Datum.required (ArtifactsConfig.ofDatum dialect) (f "artifacts")
  pure { project, lockSnapshot, quality, signing, channels,
         timeout, artifacts }

------------------------------------------------------------
-- Writing
------------------------------------------------------------

/- The value of what is released. -/
def ProjectConfig.toDatum (c : ProjectConfig) : Datum :=
  .record [("group", .text c.group), ("artifact", .text c.artifact),
    ("version", Datum.ofText? c.version),
    ("name", Datum.ofText? c.name),
    ("description", .text c.description), ("url", .text c.url),
    ("license", c.license.toDatum),
    ("developers", .list (c.developers.map Developer.toDatum)),
    ("scm", c.scm.toDatum)]

/- The value of how releases are signed. -/
def SigningConfig.toDatum (c : SigningConfig) : Datum :=
  .record [("key_env", .text c.keyEnv),
    ("passphrase_env", .text c.passphraseEnv),
    ("agent", .boolean c.agent), ("key_id", Datum.ofText? c.keyId),
    ("program", .text c.program)]

/- The value of a repository. -/
def EndpointConfig.toDatum (c : EndpointConfig) : Datum :=
  .record [("url", .text c.url),
    ("username_env", .text c.usernameEnv),
    ("password_env", .text c.passwordEnv)]

/- The value of the channels. -/
def ChannelsConfig.toDatum (c : ChannelsConfig) : Datum :=
  .record [("prerelease_markers", Datum.ofTexts c.markers),
    ("snapshot", c.snapshot.toDatum), ("release", c.release.toDatum)]

/- The value of a build output. -/
def ArtifactConfig.toDatum (c : ArtifactConfig) : Datum :=
  .record [("path", .text c.path), ("build", Datum.ofTexts c.build)]

/- The value of the build outputs. -/
def ArtifactsConfig.toDatum (c : ArtifactsConfig) : Datum :=
  .record [("binary", c.binary.toDatum),
    ("sources", c.sources.toDatum), ("docs", c.docs.toDatum)]

/- The value of a configuration. -/
def Config.toDatum (c : Config) : Datum :=
  .record [("project", c.project.toDatum),
    ("lock", .record [("snapshot", .text c.lockSnapshot)]),
    ("quality", c.quality.toDatum), ("signing", c.signing.toDatum),
    ("channels", c.channels.toDatum),
    ("publish", .record [("timeout_secs", .integer c.timeout)]),
    ("artifacts", c.artifacts.toDatum)]

end ReleasePipeline
