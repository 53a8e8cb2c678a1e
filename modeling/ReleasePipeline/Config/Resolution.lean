import ReleasePipeline.Config.Loading
import ReleasePipeline.Publish.Channel
import ReleasePipeline.Signing.Credential

/-
  This file defines the resolution of a configuration against
  the environment.  The result holds everything that a run
  needs, the secrets among it; nothing is looked up later.

  Key definitions include:
    * `Environment`
    * `ReleasePlan`
    * `Config.variableNames`
    * `Config.resolve`
-/

------------------------------------------------------------
-- Plans
------------------------------------------------------------

namespace ReleasePipeline

/- The values of the environment's variables. -/
abbrev Environment :=
  String → Option String

/- A configuration with its version and its secrets. -/
structure ReleasePlan where
  root : String
  version : Version
  metadata : ReleaseMetadata
  lockSnapshot : String
  quality : RuleSettings
  signing : SigningSources
  router : ChannelRouter
  artifacts : ArtifactsConfig
  timeout : Nat
deriving DecidableEq, Repr

namespace Config

------------------------------------------------------------
-- Resolution
------------------------------------------------------------

/- The secret that a variable holds; an empty one holds none. -/
def secret?
    (env : Environment)
    (name : String) : Option Secret :=
  match env name with
  | none => none
  | some value => if value = "" then none else some ⟨value⟩

/- The variables that a configuration names. -/
def variableNames (c : Config) : List String :=
  [c.signing.keyEnv, c.signing.passphraseEnv,
    c.channels.snapshot.usernameEnv, c.channels.snapshot.passwordEnv,
    c.channels.release.usernameEnv, c.channels.release.passwordEnv]

/-
  The text of the version: the one asked for, else the one
  configured, else that of the package.
-/
def versionText?
    (c : Config)
    (asked package : Option String) : Option String :=
  asked.or (c.project.version.or package)

/- What a run has at hand to sign with. -/
def signingSources
    (c : Config)
    (env : Environment) : SigningSources where
  keyEnv := c.signing.keyEnv
  passphraseEnv := c.signing.passphraseEnv
  key := secret? env c.signing.keyEnv
  passphrase := secret? env c.signing.passphraseEnv
  program := c.signing.program
  agent :=
    if c.signing.agent then
      some { program := c.signing.program, keyId := c.signing.keyId }
    else
      none

end Config

/- A repository with the credentials that its variables hold. -/
def EndpointConfig.resolve
    (c : EndpointConfig)
    (env : Environment) : Endpoint where
  url := Text.dropTrailingSlashes c.url
  usernameEnv := c.usernameEnv
  passwordEnv := c.passwordEnv
  username := Config.secret? env c.usernameEnv
  password := Config.secret? env c.passwordEnv

namespace Config

/- The repositories of a run. -/
def router
    (c : Config)
    (env : Environment) : ChannelRouter where
  markers := c.channels.markers
  snapshot := c.channels.snapshot.resolve env
  release := c.channels.release.resolve env

/- The metadata of a release. -/
def metadata
    (c : Config)
    (version : Version) : ReleaseMetadata where
  group := c.project.group
  artifact := c.project.artifact
  version := version.text
  name := c.project.name.getD c.project.artifact
  description := c.project.description
  url := c.project.url
  license := c.project.license
  developers := c.project.developers
  scm := c.project.scm

/- Everything that a run needs. -/
def resolve
    (c : Config)
    (root : String)
    (asked package : Option String)
    (env : Environment) : Except Fault ReleasePlan := do
  let version ←
    match c.versionText? asked package with
    | some text => Version.ofText text
    | none => .error (.metadata (.invalidVersion ""))
  let quality ← c.quality.compile
  pure { root, version, quality
         metadata := c.metadata version
         lockSnapshot := Path.join root c.lockSnapshot
         signing := c.signingSources env
         router := c.router env
         artifacts := c.artifacts
         timeout := c.timeout }

end Config

end ReleasePipeline
