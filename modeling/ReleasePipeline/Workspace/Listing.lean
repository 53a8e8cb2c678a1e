import ReleasePipeline.Files.Path
import ReleasePipeline.Json.Decoding
import ReleasePipeline.Release.SemVer

/-
  This file defines the listing of a workspace: its packages
  with their versions, which of them are members, and which
  one is the root.  The listing is one line of what `cargo`
  prints; lines before it that do not begin with a brace are
  passed over.

  Key definitions include:
    * `Package`, `RootPackage`
    * `Workspace`
    * `Workspace.ofOutput`
    * `Workspace.packageVersion?`
-/

------------------------------------------------------------
-- Listings
------------------------------------------------------------

namespace ReleasePipeline

/- A package of the resolution. -/
structure Package where
  name : String
  version : String
  id : String
  manifest : String
deriving DecidableEq, Repr

/-
  What a listing says about its root package: its id, that
  there is none, or nothing.
-/
inductive RootPackage where
  | known (id : String)
  | absent
  | unresolved
deriving DecidableEq, Repr

/- The packages of a workspace. -/
structure Workspace where
  directory : String
  packages : List Package
  members : List String
  root : RootPackage
deriving DecidableEq, Repr

------------------------------------------------------------
-- Reading
------------------------------------------------------------

/- A package; its version must be a semantic one. -/
def Package.ofDatum (d : Datum) : Option Package := do
  let f ← d.fields? .lenient ["name", "version", "id", "manifest_path"]
  let name ← Datum.required Datum.text? (f "name")
  let version ← Datum.required Datum.text? (f "version")
  let id ← Datum.required Datum.text? (f "id")
  let manifest ← Datum.required Datum.text? (f "manifest_path")
  if SemVer.isVersion version then
    pure { name, version, id, manifest }
  else
    none

/- The root package of a resolution. -/
def RootPackage.ofDatum (d : Datum) : Option RootPackage := do
  let f ← d.fields? .lenient ["root"]
  let id ← Datum.optionalText (f "root")
  pure (match id with
    | some id => .known id
    | none => .absent)

namespace Workspace

/- A listing. -/
def ofDatum (d : Datum) : Option Workspace := do
  let f ← d.fields? .lenient
    ["packages", "workspace_members", "resolve", "workspace_root"]
  let packages ←
    Datum.required (Datum.list? Package.ofDatum) (f "packages")
  let members ←
    Datum.required Datum.texts? (f "workspace_members")
  let root ←
    Datum.orElse (Datum.optional? RootPackage.ofDatum) none
      (f "resolve")
  let directory ←
    Datum.required Datum.text? (f "workspace_root")
  pure { directory, packages, members, root := root.getD .unresolved }

/- The failure to obtain a listing. -/
def fault (reason : String) : Fault :=
  .helpful s!"Cargo metadata error: {reason}"
    "Run the command from a directory containing a Cargo.toml"

/- The line of a text that holds a listing. -/
def listingLine? (text : String) : Option String :=
  (Text.pieces '\n' text).find? (Text.startsWith · "\x7b")

/- The listing in what was printed. -/
def ofOutput (output : Bytes) : Except Fault Workspace :=
  match Utf8.decode output with
  | none => .error (fault "the output is not text")
  | some text =>
      match listingLine? text with
      | none => .error (fault "there is no listing in the output")
      | some line =>
          match (Json.read? (Utf8.encode line)).bind ofDatum with
          | some workspace => .ok workspace
          | none => .error (fault "the listing cannot be read")

------------------------------------------------------------
-- The Version of the Package
------------------------------------------------------------

/- Whether a package is a member. -/
def isMember
    (w : Workspace)
    (p : Package) : Bool :=
  w.members.contains p.id

/- Whether a package's manifest is that of the workspace. -/
def hasRootManifest
    (w : Workspace)
    (p : Package) : Bool :=
  Path.components p.manifest ==
    Path.components (Path.join w.directory "Cargo.toml")

/- The root package. -/
def rootPackage? (w : Workspace) : Option Package :=
  match w.root with
  | .known id => w.packages.find? (·.id == id)
  | .absent => none
  | .unresolved => w.packages.find? w.hasRootManifest

/- The version of the root package, else of the first member. -/
def packageVersion? (w : Workspace) : Option String :=
  (w.rootPackage?.or (w.packages.find? w.isMember)).map (·.version)

end Workspace

end ReleasePipeline
