import ReleasePipeline.Checks
import ReleasePipeline.Config.Document
import ReleasePipeline.Files.Tree
import ReleasePipeline.Toml.Decoding

/-
  This file defines how a configuration is found, read and
  checked.  What does not depend on the environment is checked
  here; values that are only empty are reported later, as
  missing metadata.

  Key definitions include:
    * `Config.validate`
    * `Config.parse`
    * `Config.find?`
    * `Config.load`
-/

------------------------------------------------------------
-- Validation
------------------------------------------------------------

namespace ReleasePipeline

namespace Config

open Checks

/- The group is empty or made of path segments. -/
def checkGroup (c : Config) : Except Fault Unit :=
  ensure (c.project.group == "" || isDottedPath c.project.group)
    (invalid "project.group"
      s!"'{c.project.group}' is not a dotted list of path segments")

/- The artifact is empty or a path segment. -/
def checkArtifact (c : Config) : Except Fault Unit :=
  ensure
    (c.project.artifact == "" || isPathSegment c.project.artifact)
    (invalid "project.artifact"
      s!"'{c.project.artifact}' must be a single path segment")

/- There is only one rule set. -/
def checkRuleset (c : Config) : Except Fault Unit :=
  ensure (c.quality.ruleset == rulesetName)
    (invalid "quality.ruleset"
      (s!"unknown rule set '{c.quality.ruleset}' " ++
        s!"(available: {rulesetName})"))

/- Lines have a greatest length. -/
def checkLineLength (c : Config) : Except Fault Unit :=
  ensure (c.quality.maxLineLength != 0)
    (invalid "quality.max_line_length" "must be greater than zero")

/- There are sources. -/
def checkSources (c : Config) : Except Fault Unit :=
  ensure (!c.quality.sources.isEmpty)
    (invalid "quality.sources" "at least one glob is required")

/- A source glob can be read. -/
def checkSource (pattern : String) : Except Fault Unit :=
  withContext s!"quality.sources entry '{pattern}'"
    ((readGlob pattern).map fun _ => ())

/- A suppression has a glob that can be read and names a rule. -/
def checkSuppression (s : Suppression) : Except Fault Unit := do
  withContext s!"suppression for rule '{s.rule}'"
    ((readGlob s.files).map fun _ => ())
  ensure (s.rule == "*" || ruleNames.contains s.rule)
    (invalid "quality.suppressions" s!"unknown rule '{s.rule}'")

/- A forbidden pattern can be read. -/
def checkForbidden (pattern : String) : Except Fault Unit :=
  withContext s!"quality.forbidden_patterns entry '{pattern}'"
    ((readForbidden pattern).map fun _ => ())

/- There are markers, and none is empty. -/
def checkMarkers (c : Config) : Except Fault Unit :=
  ensure
    (!c.channels.markers.isEmpty &&
      !c.channels.markers.any (· == ""))
    (invalid "channels.prerelease_markers" "markers must be non-empty")

/- A field that must not be blank. -/
def checkPresent
    (field value : String) : Except Fault Unit :=
  ensure (!Text.isBlank value)
    (.error (.config (.missingField field)))

/- Uploads may take some time. -/
def checkTimeout (c : Config) : Except Fault Unit :=
  ensure (c.timeout != 0)
    (invalid "publish.timeout_secs" "must be greater than zero")

/-
  Check a configuration.  The first fault in this order is the
  one that is reported.
-/
def validate (c : Config) : Except Fault Unit := do
  checkGroup c
  checkArtifact c
  checkRuleset c
  checkLineLength c
  checkSources c
  checkAll checkSource c.quality.sources
  checkAll checkSuppression c.quality.suppressions
  checkAll checkForbidden c.quality.forbiddenPatterns
  checkMarkers c
  checkPresent "channels.snapshot.url" c.channels.snapshot.url
  checkPresent "channels.release.url" c.channels.release.url
  checkTimeout c
  checkPresent "artifacts.binary.path" c.artifacts.binary.path
  checkPresent "artifacts.sources.path" c.artifacts.sources.path
  checkPresent "artifacts.docs.path" c.artifacts.docs.path

/- Read and check a configuration. -/
def parse (text : String) : Except Fault Config := do
  let c ← Toml.decode (ofDatum .lenient) text
  validate c
  pure c

------------------------------------------------------------
-- Discovery
------------------------------------------------------------

/- Where a configuration may be, in the order of the search. -/
def candidates (directory : String) : List String :=
  [Path.join directory "quay.toml",
    Path.join directory ".quay.toml",
    Path.join (Path.join directory ".cargo") "quay.toml",
    Path.join (Path.join directory ".config") "quay.toml"]

/- The configuration file of a directory, if there is one. -/
def find?
    (t : FileTree)
    (directory : String) : Option String :=
  (candidates directory).find? t.present

/- Load the configuration of a directory. -/
def load
    (t : FileTree)
    (directory : String) : Except Fault Config :=
  match find? t directory with
  | none => .error (.config (.notFound directory))
  | some path => do
      let text ←
        ioContext s!"Failed to read config from {path}"
          (t.readText path)
      withContext s!"Invalid config in {path}" (parse text)

end Config

end ReleasePipeline
