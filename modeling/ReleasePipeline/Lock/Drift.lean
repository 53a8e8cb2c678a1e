import ReleasePipeline.Lock.Catalog

/-
  This file defines the comparison of a resolved dependency
  graph with a lock snapshot.  Every coordinate at which the
  two diverge is reported, in the order of the coordinates.
  A checksum counts only where both sides record one.

  Key definitions include:
    * `ResolvedGraph`, `LockSnapshot`
    * `Drift`
    * `sameResolution`
    * `drift?`
    * `LockSnapshot.diff`
    * `Drift.describe`
-/

------------------------------------------------------------
-- Snapshots and Graphs
------------------------------------------------------------

namespace ReleasePipeline

/-
  Graphs and snapshots hold a coordinate by its versions, so
  a coordinate with an empty list of versions has no place in
  them.  None is ever made: a graph gathers the packages that
  a workspace lists, a snapshot the tables of a file or what
  is in a graph, and each of them brings a version with it.
-/

/- The dependencies that the current resolution produced. -/
structure ResolvedGraph where
  catalog : Catalog
deriving DecidableEq, Repr

/- The dependencies that were recorded when the lock was made. -/
structure LockSnapshot where
  catalog : Catalog
deriving DecidableEq, Repr

/- The graph of a list of resolved versions. -/
def ResolvedGraph.ofEntries (es : List LockEntry) : ResolvedGraph where
  catalog := Catalog.ofEntries es

/- The graph without dependencies. -/
def ResolvedGraph.empty : ResolvedGraph where
  catalog := Catalog.empty

/- The snapshot without dependencies. -/
def LockSnapshot.empty : LockSnapshot where
  catalog := Catalog.empty

/- Record the current resolution. -/
def LockSnapshot.ofGraph (g : ResolvedGraph) : LockSnapshot where
  catalog := g.catalog

------------------------------------------------------------
-- Divergence
------------------------------------------------------------

/- How the two sides diverge at a coordinate. -/
inductive Drift where
  | added (coordinate : String) (versions : List LockedPackage)
  | removed (coordinate : String) (versions : List LockedPackage)
  | changed
      (coordinate : String)
      (locked resolved : List LockedPackage)
deriving DecidableEq, Repr

/- The coordinate of a divergence. -/
def Drift.coordinate : Drift → String
  | .added c _ => c
  | .removed c _ => c
  | .changed c _ _ => c

/- Checksums differ only if both are present. -/
def sameChecksum : Option String → Option String → Bool
  | some a, some b => a == b
  | _, _ => true

/- Two versions agree, as far as their checksums can tell. -/
def samePackage (a b : LockedPackage) : Bool :=
  a.version == b.version && sameChecksum a.checksum b.checksum

/- Two lists of versions agree position by position. -/
def sameResolution : List LockedPackage → List LockedPackage → Bool
  | [], [] => true
  | a :: as, b :: bs => samePackage a b && sameResolution as bs
  | _, _ => false

/-
  The divergence at a coordinate.  A side without versions
  does not have the coordinate.
-/
def drift?
    (coordinate : String)
    (locked resolved : List LockedPackage) : Option Drift :=
  match locked, resolved with
  | [], [] => none
  | [], now => some (.added coordinate now)
  | was, [] => some (.removed coordinate was)
  | was, now =>
      if sameResolution was now then
        none
      else
        some (.changed coordinate was now)

/- The coordinates of either side, in order. -/
def allCoordinates (a b : Catalog) : List String :=
  (Catalog.ofEntries (a.entries ++ b.entries)).coordinates

/- Every divergence, in the order of the coordinates. -/
def LockSnapshot.diff
    (s : LockSnapshot)
    (g : ResolvedGraph) : List Drift :=
  (allCoordinates s.catalog g.catalog).filterMap fun c =>
    drift? c (s.catalog.versionsOf c) (g.catalog.versionsOf c)

/- The versions of a list, separated by commas. -/
def versionList (ps : List LockedPackage) : String :=
  ", ".intercalate (ps.map (·.version))

/- One line that describes a divergence. -/
def Drift.describe : Drift → String
  | .added c vs => s!"+ {c} {versionList vs} (not locked)"
  | .removed c vs => s!"- {c} {versionList vs} (no longer resolved)"
  | .changed c locked resolved =>
      if versionList locked = versionList resolved then
        s!"~ {c} {versionList resolved} (checksum differs)"
      else
        s!"~ {c} {versionList locked} -> {versionList resolved}"

end ReleasePipeline
