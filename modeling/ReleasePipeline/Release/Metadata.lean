import ReleasePipeline.Json.Decoding
import ReleasePipeline.Json.Writer
import ReleasePipeline.Text.Basic

/-
  This file defines the metadata that is published beside the
  artifacts of a release, its completeness, and the document
  that holds it.

  Key definitions include:
    * `License`, `Developer`, `SourceControl`
    * `ReleaseMetadata`
    * `ReleaseMetadata.missingFields`
    * `ReleaseMetadata.validate`
    * `ReleaseMetadata.document`
    * `ReleaseMetadata.ofDocument`
-/

------------------------------------------------------------
-- Metadata
------------------------------------------------------------

namespace ReleasePipeline

/- A licence and how it is distributed. -/
structure License where
  name : String
  url : String
  distribution : String
deriving DecidableEq, Repr

/- The licence that nothing is known of yet. -/
def License.default : License where
  name := ""
  url := ""
  distribution := "repo"

/- An author or contact. -/
structure Developer where
  name : String
  email : String
deriving DecidableEq, Repr

/- Where the sources are kept. -/
structure SourceControl where
  connection : String
  developerConnection : String
  url : String
deriving DecidableEq, Repr

/- Sources of which nothing is known. -/
def SourceControl.default : SourceControl where
  connection := ""
  developerConnection := ""
  url := ""

/- What is published about a release. -/
structure ReleaseMetadata where
  group : String
  artifact : String
  version : String
  name : String
  description : String
  url : String
  license : License
  developers : List Developer
  scm : SourceControl
deriving DecidableEq, Repr

namespace ReleaseMetadata

------------------------------------------------------------
-- Completeness
------------------------------------------------------------

/- The required fields of the developers from an index on. -/
def developerFields : Nat → List Developer → List (String × String)
  | _, [] => []
  | i, dev :: devs =>
      (s!"developers[{i}].name", dev.name) ::
        (s!"developers[{i}].email", dev.email) ::
          developerFields (i + 1) devs

/- The required fields with their values, in document order. -/
def requiredFields (m : ReleaseMetadata) : List (String × String) :=
  [("group", m.group), ("artifact", m.artifact),
    ("version", m.version), ("name", m.name),
    ("description", m.description), ("url", m.url),
    ("license.name", m.license.name),
    ("license.url", m.license.url),
    ("license.distribution", m.license.distribution)] ++
    developerFields 0 m.developers ++
  [("scm.connection", m.scm.connection),
    ("scm.developer_connection", m.scm.developerConnection),
    ("scm.url", m.scm.url)]

/-
  The names of the required fields that are blank.  At least
  one developer is required as well.
-/
def missingFields (m : ReleaseMetadata) : List String :=
  ((m.requiredFields.filter fun f => Text.isBlank f.2).map (·.1)) ++
    if m.developers = [] then ["developers"] else []

/- Metadata may be published when nothing is missing. -/
def validate (m : ReleaseMetadata) : Except Fault Unit :=
  if m.missingFields = [] then
    .ok ()
  else
    .error (.metadata (.incomplete m.missingFields))

/- The name of the metadata document in the repository. -/
def fileName (m : ReleaseMetadata) : String :=
  s!"{m.artifact}-{m.version}.json"

end ReleaseMetadata

------------------------------------------------------------
-- Writing
------------------------------------------------------------

/- The value of a licence. -/
def License.toDatum (l : License) : Datum :=
  .record [("name", .text l.name), ("url", .text l.url),
    ("distribution", .text l.distribution)]

/- The value of a developer. -/
def Developer.toDatum (d : Developer) : Datum :=
  .record [("name", .text d.name), ("email", .text d.email)]

/- The value of the place of the sources. -/
def SourceControl.toDatum (s : SourceControl) : Datum :=
  .record [("connection", .text s.connection),
    ("developer_connection", .text s.developerConnection),
    ("url", .text s.url)]

/- The value of the metadata. -/
def ReleaseMetadata.toDatum (m : ReleaseMetadata) : Datum :=
  .record [("group", .text m.group), ("artifact", .text m.artifact),
    ("version", .text m.version), ("name", .text m.name),
    ("description", .text m.description), ("url", .text m.url),
    ("license", m.license.toDatum),
    ("developers", .list (m.developers.map Developer.toDatum)),
    ("scm", m.scm.toDatum)]

/- The document that is published. -/
def ReleaseMetadata.document (m : ReleaseMetadata) : Bytes :=
  Utf8.encode (Json.pretty m.toDatum ++ "\n")

------------------------------------------------------------
-- Reading
------------------------------------------------------------

/- Read a licence. -/
def License.ofDatum
    (dialect : Datum.Dialect)
    (d : Datum) : Option License := do
  let f ← d.fields? dialect ["name", "url", "distribution"]
  let name ← Datum.textOrEmpty (f "name")
  let url ← Datum.textOrEmpty (f "url")
  let distribution ←
    Datum.orElse Datum.text? License.default.distribution
      (f "distribution")
  pure { name, url, distribution }

/- Read a developer. -/
def Developer.ofDatum
    (dialect : Datum.Dialect)
    (d : Datum) : Option Developer := do
  let f ← d.fields? dialect ["name", "email"]
  let name ← Datum.textOrEmpty (f "name")
  let email ← Datum.textOrEmpty (f "email")
  pure { name, email }

/- Read the place of the sources. -/
def SourceControl.ofDatum
    (dialect : Datum.Dialect)
    (d : Datum) : Option SourceControl := do
  let f ← d.fields? dialect
    ["connection", "developer_connection", "url"]
  let connection ← Datum.textOrEmpty (f "connection")
  let developerConnection ←
    Datum.textOrEmpty (f "developer_connection")
  let url ← Datum.textOrEmpty (f "url")
  pure { connection, developerConnection, url }

namespace ReleaseMetadata

/- Read metadata; every field must be given. -/
def ofDatum
    (dialect : Datum.Dialect)
    (d : Datum) : Option ReleaseMetadata := do
  let f ← d.fields? dialect
    ["group", "artifact", "version", "name", "description",
      "url", "license", "developers", "scm"]
  let text (field : String) : Option String :=
    Datum.required Datum.text? (f field)
  let group ← text "group"
  let artifact ← text "artifact"
  let version ← text "version"
  let name ← text "name"
  let description ← text "description"
  let url ← text "url"
  let license ←
    Datum.required (License.ofDatum dialect) (f "license")
  let developers ←
    Datum.required (Datum.list? (Developer.ofDatum dialect))
      (f "developers")
  let scm ←
    Datum.required (SourceControl.ofDatum dialect) (f "scm")
  pure { group, artifact, version, name, description, url,
         license, developers, scm }

end ReleaseMetadata

/- Read a published document. -/
def ReleaseMetadata.ofDocument
    (bytes : Bytes) : Except Fault ReleaseMetadata :=
  Json.decode (ReleaseMetadata.ofDatum .strict) bytes

end ReleasePipeline
