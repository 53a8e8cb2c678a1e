import ReleasePipeline.Command.Outcome
import ReleasePipeline.Command.Project
import ReleasePipeline.Publish.Upload

/-
  This file defines the commands that tell where a version
  would go and what would be published about it.  The second
  one can also compare with what has been published.

  Key definitions include:
    * `Program.describeChannel`
    * `Program.differingFields`
    * `Program.describeMetadata`
    * `Program.comparePublished`
-/

------------------------------------------------------------
-- Channels
------------------------------------------------------------

namespace ReleasePipeline

namespace Program

variable {σ : Type}

/- The document about a channel. -/
def channelDocument
    (version : Version)
    (channel : Channel)
    (e : Endpoint) : Datum :=
  .record [("version", .text version.text),
    ("channel", .text channel.name), ("target", .text e.url),
    ("credentials", .boolean e.missing.isEmpty),
    ("missing", Datum.ofTexts e.missing)]

/- What is printed about a channel. -/
def channelLines
    (version : Version)
    (channel : Channel)
    (e : Endpoint) : List String :=
  [s!"📦 {version.text} → {channel.name} channel",
    s!"   Target: {e.url}",
    if e.missing = [] then
      s!"   Credentials: ✅ {e.usernameEnv} / {e.passwordEnv}"
    else
      "   Credentials: ❌ missing " ++ ", ".intercalate e.missing]

/- Tell the channel and the target of a version. -/
def describeChannel
    (p : Project)
    (env : Environment)
    (asked : Option String)
    (json : Bool) : Except Fault Outcome := do
  let plan ← p.plan asked env
  let channel := plan.router.classify plan.version
  let e := plan.router.endpoint channel
  pure
    (if json then
      .document (channelDocument plan.version channel e)
    else
      .printing (channelLines plan.version channel e))

------------------------------------------------------------
-- Metadata
------------------------------------------------------------

/- What is printed about metadata. -/
def metadataLines (m : ReleaseMetadata) : List String :=
  [s!"📋 {m.group}:{m.artifact}:{m.version}",
    s!"   Name:        {m.name}",
    s!"   Description: {m.description}",
    s!"   URL:         {m.url}",
    s!"   License:     {m.license.name} ({m.license.url})"] ++
    m.developers.map (fun d => s!"   Developer:   {d.name} <{d.email}>") ++
    [s!"   SCM:         {m.scm.url}"] ++
    if m.missingFields = [] then []
    else ["", "⚠️  Empty fields: " ++ ", ".intercalate m.missingFields]

/- Show metadata; it has to be complete. -/
def showMetadata
    (m : ReleaseMetadata)
    (json : Bool) : Outcome :=
  let shown : Outcome :=
    if json then .document m.toDatum else .printing (metadataLines m)
  match m.validate with
  | .ok () => shown
  | .error f => shown.endingWith (.failed f)

/- The descriptive fields in which metadata differ. -/
def differingFields
    (ours published : ReleaseMetadata) : List String :=
  [("name", ours.name != published.name),
    ("description", ours.description != published.description),
    ("url", ours.url != published.url),
    ("license", ours.license != published.license),
    ("developers", ours.developers != published.developers),
    ("scm", ours.scm != published.scm)].filterMap fun field =>
      if field.2 then some field.1 else none

/- What is printed about published metadata. -/
def publishedLines
    (location : String)
    (published : ReleaseMetadata)
    (differences : List String) : List String :=
  [s!"🌐 {location}", ""] ++ metadataLines published ++
    ["",
      if differences = [] then
        "✅ Published metadata matches quay.toml"
      else
        "⚠️  Published metadata differs in: " ++
          ", ".intercalate differences]

/- The failure of metadata that differ from what is published. -/
def differenceFault (differences : List String) : Fault :=
  .helpful
    ("Published metadata differs from quay.toml in: " ++
      ", ".intercalate differences)
    ("A published release cannot be changed; " ++
      "publish a new version instead")

/- Show the published metadata, which has to be the same. -/
def comparePublished
    (h : Host σ)
    (plan : ReleasePlan)
    (json : Bool) : Action σ Outcome := do
  let target ←
    Action.ofResult
      ((plan.router.route plan.version).mapError .release)
  let repository ← Repository.openTarget h target plan.timeout
  let layout := Layout.ofMetadata plan.metadata
  let published ← fetchMetadata repository layout
  let differences := differingFields plan.metadata published
  let shown : Outcome :=
    if json then
      .document published.toDatum
    else
      .printing (publishedLines (repository.location layout.metadataPath)
        published differences)
  pure
    (if differences = [] then shown
    else shown.endingWith (.failed (differenceFault differences)))

/- Show the metadata of a version, ours or the published ones. -/
def describeMetadata
    (h : Host σ)
    (p : Project)
    (env : Environment)
    (asked : Option String)
    (fetch json : Bool) : Action σ Outcome := do
  let plan ← Action.ofResult (p.plan asked env)
  if fetch then
    comparePublished h plan json
  else
    pure (showMetadata plan.metadata json)

end Program

end ReleasePipeline
