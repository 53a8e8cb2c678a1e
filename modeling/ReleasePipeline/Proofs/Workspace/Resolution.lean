import Mathlib.Data.List.Induction
import Mathlib.Data.List.Nodup
import ReleasePipeline.Proofs.Lock.Pairing

/-
  This file proves which versions the graph of a workspace
  holds, and which checksum each of them has.  Packages are
  told from members by their ids and are gathered by their
  names; the checksum of a version is the one that the lock
  file records last for its name and version.  It is therefore
  the same for all packages of one name and version, so that
  they are one version of the graph.

  Key definitions include:
    * `Workspace.Records`, `Workspace.LastRecord`
    * `Workspace.Locks`
    * `Workspace.External`

  Main declarations:
    * `Workspace.lastRecord_checksum?`
    * `Workspace.resolvedGraph_of_locks`
    * `Workspace.graphWith_congr`
    * `Workspace.resolvedGraph_exact`
-/

------------------------------------------------------------
-- Recorded Checksums
------------------------------------------------------------

namespace ReleasePipeline

namespace Workspace

/- A table has a checksum for a name and a version. -/
structure Records
    (table : Toml.Entries)
    (name version sum : String) : Prop where
  name : textAt table "name" = some name
  version : textAt table "version" = some version
  sum : textAt table "checksum" = some sum

theorem checksumOf?_eq_some_iff
    {table : Toml.Entries}
    {c : Checksum} :
    checksumOf? table = some c ↔
      Records table c.name c.version c.sum := by
  unfold checksumOf?
  simp only [Option.bind_eq_bind, Option.bind_eq_some_iff]
  constructor
  · rintro ⟨name, hName, version, hVersion, sum, hSum, hChecksum⟩
    cases hChecksum
    exact ⟨hName, hVersion, hSum⟩
  · rintro ⟨hName, hVersion, hSum⟩
    exact ⟨_, hName, _, hVersion, _, hSum, rfl⟩

/-
  What tables record last for a name and a version: there may
  be tables after it, but none with a checksum for them.
-/
inductive LastRecord
    (tables : List Toml.Entries)
    (name version : String) : Option String → Prop where
  | recorded
      {before after : List Toml.Entries}
      {table : Toml.Entries}
      {sum : String}
      (hParts : tables = before ++ table :: after)
      (hRecords : Records table name version sum)
      (hLast : ∀ u ∈ after, ∀ other, ¬ Records u name version other) :
      LastRecord tables name version (some sum)
  | missing
      (hNone : ∀ u ∈ tables, ∀ other, ¬ Records u name version other) :
      LastRecord tables name version none

/- A table without such a checksum changes nothing at the end. -/
theorem LastRecord.append_other
    {tables : List Toml.Entries}
    {name version : String}
    {found : Option String}
    (hFound : LastRecord tables name version found)
    {table : Toml.Entries}
    (hOther : ∀ other, ¬ Records table name version other) :
    LastRecord (tables ++ [table]) name version found := by
  have hAppend {others : List Toml.Entries}
      (hNone : ∀ u ∈ others, ∀ other, ¬ Records u name version other) :
      ∀ u ∈ others ++ [table],
        ∀ other, ¬ Records u name version other :=
    List.forall_mem_append.mpr
      ⟨hNone, List.forall_mem_singleton.mpr hOther⟩
  cases hFound with
  | @recorded before after last sum hParts hRecords hLast =>
      have hEnd :
          tables ++ [table] = before ++ last :: (after ++ [table]) := by
        rw [hParts, List.append_assoc, List.cons_append]
      exact .recorded hEnd hRecords (hAppend hLast)
  | missing hNone => exact .missing (hAppend hNone)

/- A checksum that is read later takes the place of others. -/
theorem checksum?_append
    (sums : List Checksum)
    (c : Checksum)
    (name version : String) :
    checksum? (sums ++ [c]) name version =
      if c.name = name ∧ c.version = version then
        some c.sum
      else
        checksum? sums name version := by
  unfold checksum?
  rw [List.reverse_append, List.reverse_singleton,
    List.singleton_append]
  split
  · next hSame =>
      rw [List.find?_cons_of_pos (by simp [hSame.1, hSame.2])]
      rfl
  · next hDiffer =>
      rw [List.find?_cons_of_neg (by simpa using hDiffer)]

/- What is found among the checksums was recorded last. -/
theorem lastRecord_checksum?
    (tables : List Toml.Entries)
    (name version : String) :
    LastRecord tables name version
      (checksum? (tables.filterMap checksumOf?) name version) := by
  -- The tables are taken from the end, as a later checksum replaces
  -- those before it.
  induction tables using List.reverseRecOn with
  | nil => exact .missing nofun
  | append_singleton tables table ih =>
      rw [List.filterMap_append]
      cases hChecksum : checksumOf? table with
      | none =>
          rw [List.filterMap_cons_none hChecksum, List.filterMap_nil,
            List.append_nil]
          refine ih.append_other ?_
          intro other hRecords
          have hSome := checksumOf?_eq_some_iff (c := ⟨_, _, other⟩)
            |>.mpr hRecords
          rw [hChecksum] at hSome
          cases hSome
      | some c =>
          rw [List.filterMap_cons_some hChecksum, List.filterMap_nil,
            checksum?_append]
          have hHas := checksumOf?_eq_some_iff.mp hChecksum
          split
          · next hSame =>
              rcases hSame with ⟨rfl, rfl⟩
              exact .recorded rfl hHas nofun
          · next hDiffer =>
              refine ih.append_other ?_
              intro other hRecords
              have hName := hHas.name.symm.trans hRecords.name
              have hVersion := hHas.version.symm.trans hRecords.version
              exact hDiffer
                ⟨Option.some.inj hName, Option.some.inj hVersion⟩

------------------------------------------------------------
-- Lock Files
------------------------------------------------------------

/- The tables of the packages in a lock file. -/
def packageTables (entries : Toml.Entries) : List Toml.Entries :=
  match entries.lookup "package" with
  | some (.tables elements) => elements
  | _ => []

theorem checksumsOf_eq (entries : Toml.Entries) :
    checksumsOf entries =
      (packageTables entries).filterMap checksumOf? := by
  unfold checksumsOf packageTables
  cases entries.lookup "package" with
  | none => rfl
  | some item => cases item <;> rfl

/-
  The tables that a workspace has locked: those of a lock file
  that can be read, or none if there is no file.
-/
inductive Locks
    (w : Workspace)
    (t : FileTree) : List Toml.Entries → Prop where
  | absent
      (hAbsent : t.present w.lockFilePath = false) :
      Locks w t []
  | file
      {text : String}
      {entries : Toml.Entries}
      (hText : t.readText w.lockFilePath = .ok text)
      (hEntries : Toml.read? text = some entries) :
      Locks w t (packageTables entries)

variable {w : Workspace} {t : FileTree} {tables : List Toml.Entries}

theorem readChecksums_of_locks
    (hLocks : w.Locks t tables) :
    w.readChecksums t = .ok (tables.filterMap checksumOf?) := by
  cases hLocks with
  | absent hAbsent =>
      unfold readChecksums
      rw [if_neg (ne_true_of_eq_false hAbsent)]
      rfl
  | file hText hEntries =>
      rw [readChecksums_of_readText hText hEntries, checksumsOf_eq]

/- A workspace with such a lock file has a graph. -/
theorem resolvedGraph_of_locks
    (hLocks : w.Locks t tables) :
    w.resolvedGraph t =
      .ok (w.graphWith (tables.filterMap checksumOf?)) := by
  unfold resolvedGraph
  rw [readChecksums_of_locks hLocks]
  rfl

/- The lock file is found by the directory of the workspace. -/
theorem Locks.of_directory_eq
    {u : Workspace}
    (hLocks : w.Locks t tables)
    (hDirectory : u.directory = w.directory) :
    u.Locks t tables := by
  have hPath : u.lockFilePath = w.lockFilePath := by
    unfold lockFilePath
    rw [hDirectory]
  cases hLocks with
  | absent hAbsent => exact .absent (by rw [hPath]; exact hAbsent)
  | file hText hEntries =>
      exact .file (by rw [hPath]; exact hText) hEntries

------------------------------------------------------------
-- External Packages
------------------------------------------------------------

/- A package that is resolved but is not a member. -/
structure External (w : Workspace) (p : Package) : Prop where
  listed : p ∈ w.packages
  outside : p.id ∉ w.members

theorem isMember_eq_false_iff {p : Package} :
    w.isMember p = false ↔ p.id ∉ w.members := by
  unfold isMember
  rw [← Bool.not_eq_true, List.contains_iff_mem]

/- The graph has an entry for every external package. -/
theorem mem_graphWith_iff_external
    {sums : List Checksum}
    {e : LockEntry} :
    e ∈ (w.graphWith sums).catalog.entries ↔
      ∃ p, w.External p ∧ lockEntry sums p = e := by
  rw [mem_graphWith_iff]
  constructor
  · rintro ⟨p, hListed, hOutside, hEntry⟩
    exact ⟨p, ⟨hListed, isMember_eq_false_iff.mp hOutside⟩, hEntry⟩
  · rintro ⟨p, ⟨hListed, hOutside⟩, hEntry⟩
    exact ⟨p, hListed, isMember_eq_false_iff.mpr hOutside, hEntry⟩

/- Nothing but name and version of a package is in its entry. -/
theorem lockEntry_congr
    {p q : Package}
    (hName : q.name = p.name)
    (hVersion : q.version = p.version)
    (sums : List Checksum) :
    lockEntry sums q = lockEntry sums p := by
  unfold lockEntry
  rw [hName, hVersion]

/-
  Workspaces with external packages of the same names and
  versions have the same graph.
-/
theorem graphWith_congr
    {u : Workspace}
    (hFirst :
      ∀ p, w.External p →
        ∃ q, u.External q ∧ q.name = p.name ∧ q.version = p.version)
    (hSecond :
      ∀ q, u.External q →
        ∃ p, w.External p ∧ p.name = q.name ∧ p.version = q.version)
    (sums : List Checksum) :
    u.graphWith sums = w.graphWith sums := by
  have hCatalog :
      (u.graphWith sums).catalog = (w.graphWith sums).catalog := by
    apply Catalog.ext_mem
    intro e
    rw [mem_graphWith_iff_external, mem_graphWith_iff_external]
    constructor
    · rintro ⟨q, hExternal, rfl⟩
      rcases hSecond q hExternal with ⟨p, hThere, hName, hVersion⟩
      exact ⟨p, hThere, lockEntry_congr hName hVersion sums⟩
    · rintro ⟨p, hExternal, rfl⟩
      rcases hFirst p hExternal with ⟨q, hThere, hName, hVersion⟩
      exact ⟨q, hThere, lockEntry_congr hName hVersion sums⟩
  exact congrArg ResolvedGraph.mk hCatalog

/- The order of packages and of members plays no part. -/
theorem graphWith_of_perm
    {u : Workspace}
    (hPackages : u.packages.Perm w.packages)
    (hMembers : ∀ id, id ∈ u.members ↔ id ∈ w.members)
    (sums : List Checksum) :
    u.graphWith sums = w.graphWith sums := by
  have hExternal (p : Package) : u.External p ↔ w.External p := by
    constructor
    · rintro ⟨hListed, hOutside⟩
      exact ⟨hPackages.mem_iff.mp hListed, mt (hMembers p.id).mpr hOutside⟩
    · rintro ⟨hListed, hOutside⟩
      exact ⟨hPackages.mem_iff.mpr hListed, mt (hMembers p.id).mp hOutside⟩
  apply graphWith_congr
  · exact fun p hThere => ⟨p, (hExternal p).mpr hThere, rfl, rfl⟩
  · exact fun p hThere => ⟨p, (hExternal p).mp hThere, rfl, rfl⟩

/- The workspace with one more package. -/
def addPackage (w : Workspace) (p : Package) : Workspace :=
  { w with packages := p :: w.packages }

/- A package adds nothing if its name and version are there. -/
theorem graphWith_addPackage
    {p q : Package}
    (hExternal : w.External p)
    (hName : q.name = p.name)
    (hVersion : q.version = p.version)
    (sums : List Checksum) :
    (w.addPackage q).graphWith sums = w.graphWith sums := by
  apply graphWith_congr
  · rintro r ⟨hListed, hOutside⟩
    exact ⟨r, ⟨List.mem_cons_of_mem q hListed, hOutside⟩, rfl, rfl⟩
  · rintro r ⟨hListed, hOutside⟩
    rcases List.mem_cons.mp hListed with rfl | hListed
    · exact ⟨p, hExternal, hName.symm, hVersion.symm⟩
    · exact ⟨r, ⟨hListed, hOutside⟩, rfl, rfl⟩

------------------------------------------------------------
-- Versions of a Name
------------------------------------------------------------

theorem mem_coordinates_graphWith_iff
    {sums : List Checksum}
    {name : String} :
    name ∈ (w.graphWith sums).catalog.coordinates ↔
      ∃ p, w.External p ∧ p.name = name := by
  rw [Catalog.mem_coordinates_iff]
  simp only [mem_graphWith_iff_external]
  constructor
  · rintro ⟨-, ⟨p, hExternal, rfl⟩, hName⟩
    exact ⟨p, hExternal, hName⟩
  · rintro ⟨p, hExternal, hName⟩
    exact ⟨_, ⟨p, hExternal, rfl⟩, hName⟩

theorem mem_versionsOf_graphWith_iff
    {sums : List Checksum}
    {name : String}
    {k : LockedPackage} :
    k ∈ (w.graphWith sums).catalog.versionsOf name ↔
      ∃ p, w.External p ∧ p.name = name ∧
        (lockEntry sums p).package = k := by
  unfold Catalog.versionsOf
  simp only [List.mem_map, List.mem_filter, beq_iff_eq,
    mem_graphWith_iff_external]
  constructor
  · rintro ⟨-, ⟨⟨p, hExternal, rfl⟩, hName⟩, hPackage⟩
    exact ⟨p, hExternal, hName, hPackage⟩
  · rintro ⟨p, hExternal, hName, hPackage⟩
    exact ⟨_, ⟨⟨p, hExternal, rfl⟩, hName⟩, hPackage⟩

theorem mem_map_version_graphWith_iff
    {sums : List Checksum}
    {name version : String} :
    version ∈
        ((w.graphWith sums).catalog.versionsOf name).map (·.version) ↔
      ∃ p, w.External p ∧ p.name = name ∧ p.version = version := by
  simp only [List.mem_map, mem_versionsOf_graphWith_iff]
  constructor
  · rintro ⟨-, ⟨p, hExternal, hName, rfl⟩, hVersion⟩
    exact ⟨p, hExternal, hName, hVersion⟩
  · rintro ⟨p, hExternal, hName, hVersion⟩
    exact ⟨_, ⟨p, hExternal, hName, rfl⟩, hVersion⟩

/- A checksum of the graph is the one that was recorded last. -/
theorem lastRecord_of_mem_versionsOf
    {name : String}
    {k : LockedPackage}
    (hVersion :
      k ∈ (w.graphWith (tables.filterMap checksumOf?)).catalog.versionsOf
        name) :
    LastRecord tables name k.version k.checksum := by
  rcases mem_versionsOf_graphWith_iff.mp hVersion with ⟨p, -, rfl, rfl⟩
  exact lastRecord_checksum? tables p.name p.version

/-
  The graph of a workspace has the names of its external
  packages, each with the versions of its packages in order
  and once each, and with the checksums that are recorded last
  for them.  It does not depend on the order of packages, nor
  on how many of them have one name and version.
-/
theorem resolvedGraph_exact
    (hLocks : w.Locks t tables) :
    ∃ g,
      w.resolvedGraph t = .ok g ∧
      (∀ name,
        name ∈ g.catalog.coordinates ↔
          ∃ p, w.External p ∧ p.name = name) ∧
      (∀ name version,
        version ∈ (g.catalog.versionsOf name).map (·.version) ↔
          ∃ p, w.External p ∧ p.name = name ∧ p.version = version) ∧
      (∀ name,
        (g.catalog.versionsOf name).Pairwise fun k l =>
          k.version < l.version) ∧
      (∀ name, ∀ k ∈ g.catalog.versionsOf name,
        LastRecord tables name k.version k.checksum) ∧
      (∀ u : Workspace,
        u.directory = w.directory →
        u.packages.Perm w.packages →
        (∀ id, id ∈ u.members ↔ id ∈ w.members) →
          u.resolvedGraph t = .ok g) ∧
      ∀ p q,
        w.External p → q.name = p.name → q.version = p.version →
          (w.addPackage q).resolvedGraph t = .ok g ∧
            ((g.catalog.versionsOf p.name).map (·.version)).count
              p.version = 1 := by
  have hDistinct := w.distinctVersions_graphWith
    (tables.filterMap checksumOf?)
  refine ⟨_, resolvedGraph_of_locks hLocks,
    fun _ => mem_coordinates_graphWith_iff,
    fun _ _ => mem_map_version_graphWith_iff, ?_,
    fun _ _ hVersion => lastRecord_of_mem_versionsOf hVersion, ?_, ?_⟩
  · intro name
    exact (Catalog.inVersionOrder_versionsOf _ name).increasing
      (hDistinct name)
  · intro u hDirectory hPackages hMembers
    rw [resolvedGraph_of_locks (hLocks.of_directory_eq hDirectory),
      graphWith_of_perm hPackages hMembers]
  · intro p q hExternal hName hVersion
    have hOther : (w.addPackage q).Locks t tables :=
      hLocks.of_directory_eq rfl
    refine ⟨?_, List.count_eq_one_of_mem (hDistinct p.name) ?_⟩
    · rw [resolvedGraph_of_locks hOther,
        graphWith_addPackage hExternal hName hVersion]
    · exact mem_map_version_graphWith_iff.mpr ⟨p, hExternal, rfl, rfl⟩

end Workspace

namespace Sample

/- A lock file that records two checksums for one version. -/
def lockFileText : String :=
  "[[package]]\nname = \"n\"\nversion = \"1.0.0\"\nchecksum = \"a\"\n" ++
  "[[package]]\nname = \"n\"\nversion = \"1.0.0\"\nchecksum = \"b\"\n" ++
  "[[package]]\nname = \"n\"\nversion = \"1.0.0\"\n"

/- A tree with that file. -/
def lockFileTree : FileTree where
  entries :=
    [(["p"], .directory),
      (["p", "Cargo.lock"], .file (Utf8.encode lockFileText))]
  workingDirectory := []

/- A dependency that has the name of a member. -/
def namesake : Package where
  name := "m"
  version := "1.0.0"
  id := "j"
  manifest := ""

/- A version of another dependency, from one of two places. -/
def mirrored (id : String) : Package where
  name := "n"
  version := "1.0.0"
  id := id
  manifest := ""

/- A workspace of one member, with dependencies. -/
def mirroredWorkspace : Workspace where
  directory := "/p"
  packages :=
    [mirrored "k",
      { name := "m", version := "2.0.0", id := "i", manifest := "" },
      { name := "n", version := "0.9.0", id := "h", manifest := "" },
      namesake]
  members := ["i"]
  root := .absent

/- The same workspace, listed the other way round. -/
def reversedWorkspace : Workspace :=
  { mirroredWorkspace with
    packages := mirroredWorkspace.packages.reverse }

/- The checksums of the lock file, in its order. -/
def mirroredSums : List Workspace.Checksum :=
  [{ name := "n", version := "1.0.0", sum := "a" },
    { name := "n", version := "1.0.0", sum := "b" }]

theorem checksumsOf_lockFileText :
    (Toml.read? lockFileText).map Workspace.checksumsOf =
      some mirroredSums := by
  decide +kernel

end Sample

/-
  Of the sample, the member's own version is not in the graph,
  and a version from two places is there once.
-/
theorem Workspace.sample_resolvedGraph_exact :
    ∃ tables g,
      Sample.mirroredWorkspace.Locks Sample.lockFileTree tables ∧
      Sample.mirroredWorkspace.resolvedGraph Sample.lockFileTree =
        .ok g ∧
      (Sample.mirroredWorkspace.addPackage
        (Sample.mirrored "l")).resolvedGraph Sample.lockFileTree =
          .ok g ∧
      Sample.reversedWorkspace.resolvedGraph Sample.lockFileTree =
        .ok g ∧
      g.catalog.coordinates = ["m", "n"] ∧
      g.catalog.versionsOf "m" =
        [{ version := "1.0.0", checksum := none }] ∧
      g.catalog.versionsOf "n" =
        [{ version := "0.9.0", checksum := none },
          { version := "1.0.0", checksum := some "b" }] ∧
      LastRecord tables "n" "1.0.0" (some "b") := by
  have hRead :
      Sample.lockFileTree.read Sample.mirroredWorkspace.lockFilePath =
        .ok (Utf8.encode Sample.lockFileText) := by
    decide +kernel
  rcases Option.map_eq_some_iff.mp Sample.checksumsOf_lockFileText with
    ⟨entries, hEntries, hSums⟩
  have hLocks := Locks.file (FileTree.readText_of_read hRead) hEntries
  rcases resolvedGraph_exact hLocks with
    ⟨g, hGraph, -, -, -, hRecords, hOrder, hCollapse⟩
  have hExternal :
      Sample.mirroredWorkspace.External (Sample.mirrored "k") :=
    ⟨by decide, by decide⟩
  have hAdded := (hCollapse _ (Sample.mirrored "l") hExternal rfl rfl).1
  have hReversed := hOrder Sample.reversedWorkspace rfl
    (List.reverse_perm _) fun _ => Iff.rfl
  -- The graph is the one with the checksums that were read.
  have hFound := resolvedGraph_of_locks hLocks
  rw [hGraph, ← checksumsOf_eq, hSums] at hFound
  cases hFound
  refine ⟨_, _, hLocks, hGraph, hAdded, hReversed, by decide, by decide,
    by decide, ?_⟩
  exact hRecords "n" { version := "1.0.0", checksum := some "b" }
    (by decide)

end ReleasePipeline
