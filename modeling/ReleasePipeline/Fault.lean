import ReleasePipeline.Files.IoError
import ReleasePipeline.Lock.Drift
import ReleasePipeline.Quality.Violation

/-
  This file defines the failures of the program: their
  causes, their texts, the help that goes with them, and the
  exit code of each class.  Every terminal failure of a
  release has a code of its own, so that a caller can tell
  the classes apart.

  Key definitions include:
    * `ConfigFault`, `MetadataFault`, `ReleaseFault`
    * `Fault`
    * `Fault.message`, `Fault.help`, `Fault.exitCode`
    * `Fault.withContext`
    * `Fault.display`
-/

------------------------------------------------------------
-- Causes
------------------------------------------------------------

namespace ReleasePipeline

/- What can be wrong with a configuration. -/
inductive ConfigFault where
  | notFound (directory : String)
  | missingField (field : String)
  | invalidField (field reason : String)
deriving DecidableEq, Repr

/- What can be wrong with what a release is called. -/
inductive MetadataFault where
  | incomplete (fields : List String)
  | invalidVersion (version : String)
deriving DecidableEq, Repr

/- The terminal failures of a release, one for each class. -/
inductive ReleaseFault where
  | lockMismatch (drift : List Drift)
  | qualityGate (violations : List Violation)
  | noSigningCredential (checked : List String)
  | missingCredentials (channel : String) (missing : List String)
  | upload (member target reason : String)
  | signing (member reason : String)
  | artifactMissing (member reason : String)
deriving DecidableEq, Repr

/-
  A failure.  A `general` failure carries its own text, the
  contexts that were added to it and perhaps a help.
-/
inductive Fault where
  | config (cause : ConfigFault)
  | release (cause : ReleaseFault)
  | metadata (cause : MetadataFault)
  | io (cause : IoError)
  | general (text : String) (context help : Option String)
deriving DecidableEq, Repr

------------------------------------------------------------
-- Texts
------------------------------------------------------------

/- The text of a fault of the configuration. -/
def ConfigFault.message : ConfigFault → String
  | .notFound directory =>
      "No cargo-quay configuration found.\nSearched quay.toml, " ++
        ".quay.toml, .cargo/quay.toml, .config/quay.toml under " ++
        directory
  | .missingField field =>
      s!"Missing required field in config: {field}"
  | .invalidField field reason =>
      s!"Invalid value for {field}: {reason}"

/- The help for a fault of the configuration. -/
def ConfigFault.help : ConfigFault → Option String
  | .notFound _ =>
      some ("Create quay.toml with at least a [project] " ++
        "and [artifacts] section.")
  | .missingField field => some s!"Add `{field}` to quay.toml."
  | .invalidField _ _ => none

/- The text of a fault of the metadata. -/
def MetadataFault.message : MetadataFault → String
  | .incomplete fields =>
      "Release metadata is incomplete, empty fields: " ++
        ", ".intercalate fields
  | .invalidVersion version =>
      s!"Invalid version identifier: '{version}'"

/- The help for a fault of the metadata. -/
def MetadataFault.help : MetadataFault → String
  | .incomplete _ =>
      "Fill in every field of the [project] section in quay.toml."
  | .invalidVersion _ =>
      "Pass --version, set project.version, or give the Cargo " ++
        "package a version."

namespace ReleaseFault

/- The line that reports a finding. -/
def violationLine (v : Violation) : String :=
  s!"\n  {v.location}: [{v.rule}] {v.message}"

/- The line that reports a divergence. -/
def driftLine (d : Drift) : String :=
  s!"\n  {d.describe}"

/- The text of a terminal failure. -/
def message : ReleaseFault → String
  | .lockMismatch drift =>
      s!"Dependency lock mismatch ({drift.length} coordinate(s) diverge)" ++
        String.join (drift.map driftLine)
  | .qualityGate violations =>
      s!"Quality gate failed with {violations.length} violation(s)" ++
        String.join (violations.map violationLine)
  | .noSigningCredential checked =>
      "No signing credential available (checked: " ++
        ", ".intercalate checked ++ ")"
  | .missingCredentials channel missing =>
      s!"Missing repository credentials for the {channel} channel: " ++
        ", ".intercalate missing
  | .upload member target reason =>
      s!"Upload of {member} to {target} failed: {reason}"
  | .signing member reason =>
      s!"Signing {member} failed: {reason}"
  | .artifactMissing member reason =>
      s!"Artifact {member} unavailable: {reason}"

/- The help for a terminal failure. -/
def help : ReleaseFault → String
  | .lockMismatch _ =>
      "Review the drift, then re-lock explicitly with " ++
        "`cargo quay lock --write`."
  | .qualityGate _ =>
      "Fix every violation or add a suppression in [quality] " ++
        "of quay.toml."
  | .noSigningCredential checked =>
      "Export " ++ " and ".intercalate checked ++
        " or enable `[signing] agent = true`."
  | .missingCredentials _ missing =>
      "Export " ++ " and ".intercalate missing ++
        " before publishing."
  | .upload _ _ _ =>
      "Nothing was retried. Check the repository state before " ++
        "re-running the release."
  | .signing _ _ =>
      "Check that gpg is installed and the key can sign."
  | .artifactMissing _ _ =>
      "Check the [artifacts] paths and build commands."

/- The stable name of the class of a failure. -/
def kind : ReleaseFault → String
  | .lockMismatch _ => "LockMismatch"
  | .qualityGate _ => "QualityGateFailure"
  | .noSigningCredential _ => "NoSigningCredential"
  | .missingCredentials _ _ => "MissingRepositoryCredentials"
  | .upload _ _ _ => "UploadFailure"
  | .signing _ _ => "SigningFailure"
  | .artifactMissing _ _ => "ArtifactMissing"

/- The exit code of the class of a failure. -/
def exitCode : ReleaseFault → Nat
  | .lockMismatch _ => 10
  | .qualityGate _ => 11
  | .noSigningCredential _ => 12
  | .missingCredentials _ _ => 13
  | .upload _ _ _ => 14
  | .signing _ _ => 15
  | .artifactMissing _ _ => 16

end ReleaseFault

namespace Fault

/- A failure that is known by its text alone. -/
def plain (text : String) : Fault :=
  .general text none none

/- A failure with a text and a help. -/
def helpful (text help : String) : Fault :=
  .general text none (some help)

/- The text of a failure. -/
def message : Fault → String
  | .config cause => cause.message
  | .release cause => cause.message
  | .metadata cause => cause.message
  | .io cause => s!"I/O error: {cause.message}"
  | .general text none _ => text
  | .general text (some context) _ => text ++ "\n" ++ context

/- The help for a failure. -/
def help : Fault → Option String
  | .config cause => cause.help
  | .release cause => some cause.help
  | .metadata cause => some cause.help
  | .io _ => none
  | .general _ _ help => help

/- The exit code of a failure. -/
def exitCode : Fault → Nat
  | .config _ => 1
  | .release cause => cause.exitCode
  | .metadata _ => 3
  | .io _ => 2
  | .general _ _ _ => 1

/- The terminal failure that a failure carries. -/
def release? : Fault → Option ReleaseFault
  | .release cause => some cause
  | _ => none

------------------------------------------------------------
-- Contexts
------------------------------------------------------------

/-
  Add a context to a failure.  The latest context stands
  before the earlier ones; a failure of file access is turned
  into a general one that the context names.  Failures that
  say what they are about stay as they are.
-/
def withContext
    (context : String) : Fault → Fault
  | .general text none help => .general text (some context) help
  | .general text (some inner) help =>
      .general text (some (context ++ "\n" ++ inner)) help
  | .io cause =>
      .general context (some s!"I/O error: {cause.message}") none
  | fault => fault

/- What the program prints about a failure. -/
def display (f : Fault) : String :=
  s!"\n❌ {f.message}\n\n" ++
    match f.help with
    | some help => s!"💡 Help: {help}\n\n"
    | none => ""

end Fault

/- Add a context to the failure of a result. -/
def withContext
    {α : Type}
    (context : String) : Except Fault α → Except Fault α
  | .ok a => .ok a
  | .error fault => .error (fault.withContext context)

/- A failure of file access, under the context that explains it. -/
def ioContext
    {α : Type}
    (context : String) : Except IoError α → Except Fault α
  | .ok a => .ok a
  | .error cause => .error ((Fault.io cause).withContext context)

end ReleasePipeline
