import ReleasePipeline.Checks
import ReleasePipeline.Files.Tree
import ReleasePipeline.Release.SemVer
import ReleasePipeline.Toml.Decoding
import ReleasePipeline.Toml.Writer

/-
  This file defines the file that holds a lock snapshot: a
  format version and one table for each locked version.  A
  file that is missing is a failure, never an empty snapshot.

  Key definitions include:
    * `LockSnapshot.render`
    * `LockSnapshot.parse`
    * `LockSnapshot.load`
    * `LockSnapshot.save`
    * `LockSnapshot.verify`
-/

------------------------------------------------------------
-- Writing
------------------------------------------------------------

namespace ReleasePipeline

namespace LockSnapshot

/- The version of the format. -/
def formatVersion : Nat :=
  1

/- The comment at the start of the file. -/
def header : String :=
  "# Generated by `cargo quay lock --write`. Do not edit by hand.\n"

/- One assignment of a text. -/
def assignment (key value : String) : String :=
  s!"{key} = {Toml.written value}\n"

/- The table of an entry. -/
def entryTable (e : LockEntry) : String :=
  "\n[[dependency]]\n" ++ assignment "coordinate" e.coordinate ++
    assignment "version" e.package.version ++
    match e.package.checksum with
    | some sum => assignment "checksum" sum
    | none => ""

/- The text of the file. -/
def render (s : LockSnapshot) : String :=
  header ++ s!"version = {formatVersion}\n" ++
    match s.catalog.entries with
    | [] => "dependency = []\n"
    | es => String.join (es.map entryTable)

------------------------------------------------------------
-- Reading
------------------------------------------------------------

/- Read an entry. -/
def entryOfDatum (d : Datum) : Option LockEntry := do
  let f ← d.fields? .lenient ["coordinate", "version", "checksum"]
  let coordinate ← Datum.required Datum.text? (f "coordinate")
  let version ← Datum.required Datum.text? (f "version")
  let checksum ← Datum.optionalText (f "checksum")
  pure { coordinate, package := { version, checksum } }

/- Read the format version and the entries. -/
def fileOfDatum (d : Datum) : Option (Nat × List LockEntry) := do
  let f ← d.fields? .lenient ["version", "dependency"]
  let version ← Datum.required (Datum.bounded? (Nat.pow 2 32)) (f "version")
  let entries ←
    Datum.orElse (Datum.list? entryOfDatum) [] (f "dependency")
  pure (version, entries)

/- The failure to read a semantic version. -/
def versionFault : Fault :=
  .plain "Version parse error: not a semantic version"

/- Every locked version has to be a semantic version. -/
def checkEntry (e : LockEntry) : Except Fault Unit :=
  withContext
    (s!"Dependency '{e.coordinate}' has version " ++
      s!"'{e.package.version}'")
    (if SemVer.isVersion e.package.version then .ok ()
      else .error versionFault)

/- Read the text of a file. -/
def parse (text : String) : Except Fault LockSnapshot := do
  let (version, entries) ← Toml.decode fileOfDatum text
  Checks.ensure (version == formatVersion)
    (Checks.invalid "version"
      (s!"unsupported lock format {version} " ++
        s!"(expected {formatVersion})"))
  Checks.checkAll checkEntry entries
  pure { catalog := Catalog.ofEntries entries }

------------------------------------------------------------
-- Files
------------------------------------------------------------

/- Load a snapshot. -/
def load
    (t : FileTree)
    (path : String) : Except Fault LockSnapshot :=
  if t.present path then do
    let text ←
      ioContext s!"Failed to read lock snapshot {path}"
        (t.readText path)
    withContext s!"Invalid lock snapshot {path}" (parse text)
  else
    .error (.helpful s!"Lock snapshot not found: {path}"
      "Create it with `cargo quay lock --write` and commit it")

/- Store a snapshot. -/
def save
    (s : LockSnapshot)
    (t : FileTree)
    (path : String) : Except Fault FileTree :=
  ioContext s!"Failed to write lock snapshot {path}"
    (t.write path (Utf8.encode s.render))

/- A graph is accepted if it does not diverge anywhere. -/
def verify
    (s : LockSnapshot)
    (g : ResolvedGraph) : Except ReleaseFault Unit :=
  if s.diff g = [] then
    .ok ()
  else
    .error (.lockMismatch (s.diff g))

end LockSnapshot

end ReleasePipeline
