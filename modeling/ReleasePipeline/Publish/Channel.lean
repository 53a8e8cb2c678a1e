import ReleasePipeline.Fault
import ReleasePipeline.Release.Version
import ReleasePipeline.Secret

/-
  This file defines the two channels of releases and which
  repository a version goes to.  A version that ends with one
  of the markers is a pre-release.  Only the credentials of
  the selected channel are asked for.

  Key definitions include:
    * `Channel`
    * `Endpoint`, `PublishTarget`
    * `ChannelRouter`
    * `ChannelRouter.classify`
    * `ChannelRouter.route`
-/

------------------------------------------------------------
-- Channels
------------------------------------------------------------

namespace ReleasePipeline

/- Pre-releases and stable releases. -/
inductive Channel where
  | snapshot
  | release
deriving DecidableEq, Repr

/- The name of a channel. -/
def Channel.name : Channel → String
  | .snapshot => "snapshot"
  | .release => "release"

/- A repository, and the credentials that were found for it. -/
structure Endpoint where
  url : String
  usernameEnv : String
  passwordEnv : String
  username : Option Secret
  password : Option Secret
deriving DecidableEq, Repr

/- Where a release goes, and who sends it. -/
structure PublishTarget where
  channel : Channel
  url : String
  username : Secret
  password : Secret
deriving DecidableEq, Repr

/- The markers of pre-releases and the two repositories. -/
structure ChannelRouter where
  markers : List String
  snapshot : Endpoint
  release : Endpoint
deriving DecidableEq, Repr

------------------------------------------------------------
-- Routing
------------------------------------------------------------

/- The variables of the credentials that were not found. -/
def Endpoint.missing (e : Endpoint) : List String :=
  (if e.username.isNone then [e.usernameEnv] else []) ++
    if e.password.isNone then [e.passwordEnv] else []

namespace ChannelRouter

/- The channel of a version. -/
def classify
    (r : ChannelRouter)
    (v : Version) : Channel :=
  if r.markers.any (Text.endsWith v.text ·) then
    .snapshot
  else
    .release

/- The repository of a channel. -/
def endpoint
    (r : ChannelRouter) : Channel → Endpoint
  | .snapshot => r.snapshot
  | .release => r.release

/- The target of a version, with the credentials to get there. -/
def route
    (r : ChannelRouter)
    (v : Version) : Except ReleaseFault PublishTarget :=
  let channel := r.classify v
  let e := r.endpoint channel
  match e.username, e.password with
  | some username, some password =>
      .ok { channel, url := e.url, username, password }
  | _, _ => .error (.missingCredentials channel.name e.missing)

end ChannelRouter

end ReleasePipeline
