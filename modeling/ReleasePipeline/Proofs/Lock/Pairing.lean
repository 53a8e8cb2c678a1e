import Mathlib.Data.List.Forall2
import ReleasePipeline.Proofs.Workspace.Graph

/-
  This file proves that the comparison of a snapshot with a
  graph is exact.  Versions are compared position by position,
  but what is meant is that the versions of both sides can be
  paired one to one, each with one that agrees.  The two are
  the same because both sides are in order and a graph lists
  no version twice.

  Key definitions include:
    * `LockedPackage.Agrees`
    * `Paired`
    * `ResolvedGraph.DistinctVersions`
    * `Drift.Reports`

  Main declarations:
    * `sameResolution_iff_paired`
    * `LockSnapshot.mem_diff_iff`
    * `Workspace.distinctVersions_resolvedGraph`
    * `LockSnapshot.diff_exact`
-/

------------------------------------------------------------
-- Pairings
------------------------------------------------------------

namespace ReleasePipeline

/-
  Two records are of one version, and of one checksum wherever
  both have one.
-/
structure LockedPackage.Agrees
    (locked resolved : LockedPackage) : Prop where
  version : locked.version = resolved.version
  checksum :
    ∀ a b, locked.checksum = some a → resolved.checksum = some b → a = b

/- The records of two lists can be paired one to one. -/
def Paired (locked resolved : List LockedPackage) : Prop :=
  ∃ partners : List LockedPackage,
    partners.Perm resolved ∧
      List.Forall₂ LockedPackage.Agrees locked partners

/- Lists can be paired only if they are of the same length. -/
theorem Paired.length_eq
    {locked resolved : List LockedPackage}
    (hPaired : Paired locked resolved) :
    locked.length = resolved.length := by
  rcases hPaired with ⟨partners, hPerm, hAgree⟩
  exact hAgree.length_eq.trans hPerm.length_eq

theorem samePackage_eq_true_iff {a b : LockedPackage} :
    samePackage a b = true ↔ a.Agrees b := by
  unfold samePackage
  rw [Bool.and_eq_true, beq_iff_eq]
  constructor
  · rintro ⟨hVersion, hChecksum⟩
    refine ⟨hVersion, ?_⟩
    intro x y hFirst hSecond
    rw [hFirst, hSecond] at hChecksum
    exact beq_iff_eq.mp hChecksum
  · rintro ⟨hVersion, hChecksum⟩
    refine ⟨hVersion, ?_⟩
    unfold sameChecksum
    split
    · next x y hFirst hSecond =>
        exact beq_iff_eq.mpr (hChecksum x y hFirst hSecond)
    · rfl

theorem sameResolution_eq_true_iff {as bs : List LockedPackage} :
    sameResolution as bs = true ↔
      List.Forall₂ LockedPackage.Agrees as bs := by
  induction as generalizing bs with
  | nil => cases bs <;> simp [sameResolution]
  | cons a as ih =>
      cases bs with
      | nil => simp [sameResolution]
      | cons b bs =>
          rw [sameResolution, Bool.and_eq_true, List.forall₂_cons,
            samePackage_eq_true_iff, ih]

/- What agrees has the same versions in the same places. -/
theorem map_version_eq
    {as bs : List LockedPackage}
    (hAgree : List.Forall₂ LockedPackage.Agrees as bs) :
    as.map (·.version) = bs.map (·.version) := by
  induction hAgree with
  | nil => rfl
  | cons hFirst _ ih => rw [List.map_cons, List.map_cons, ih, hFirst.version]

/- The versions of a list do not decrease. -/
def InVersionOrder (ps : List LockedPackage) : Prop :=
  ps.Pairwise fun p q => p.version ≤ q.version

/- They increase if none of them is repeated. -/
theorem InVersionOrder.increasing
    {ps : List LockedPackage}
    (hOrdered : InVersionOrder ps)
    (hDistinct : (ps.map (·.version)).Nodup) :
    ps.Pairwise fun p q => p.version < q.version := by
  rw [List.Nodup, List.pairwise_map] at hDistinct
  refine (List.Pairwise.and hOrdered hDistinct).imp ?_
  rintro p q ⟨hLe, hNe⟩
  by_contra hNot
  exact hNe (String.le_antisymm hLe (String.not_lt.mp hNot))

/-
  In lists that are in order, of which the second repeats no
  version, only records in the same place can be partners.
-/
theorem sameResolution_iff_paired
    {locked resolved : List LockedPackage}
    (hLocked : InVersionOrder locked)
    (hResolved : InVersionOrder resolved)
    (hDistinct : (resolved.map (·.version)).Nodup) :
    sameResolution locked resolved = true ↔ Paired locked resolved := by
  rw [sameResolution_eq_true_iff]
  constructor
  · intro hAgree
    exact ⟨resolved, List.Perm.refl _, hAgree⟩
  · rintro ⟨partners, hPerm, hAgree⟩
    -- The partners are in order like `locked`, and as distinct as
    -- `resolved`.
    have hOrdered : InVersionOrder partners := by
      unfold InVersionOrder at hLocked ⊢
      rw [← List.pairwise_map (f := LockedPackage.version) (R := (· ≤ ·))]
        at hLocked ⊢
      rwa [← map_version_eq hAgree]
    have hOnce : (partners.map (·.version)).Nodup :=
      (hPerm.map (·.version)).nodup_iff.mpr hDistinct
    have hSame : partners = resolved := by
      refine hPerm.eq_of_pairwise ?_ (hOrdered.increasing hOnce)
        (hResolved.increasing hDistinct)
      intro p q _ _ hLess hMore
      exact absurd (String.lt_trans hLess hMore) (String.lt_irrefl _)
    rwa [hSame] at hAgree

------------------------------------------------------------
-- Catalogs
------------------------------------------------------------

namespace Catalog

/- The versions of a coordinate are listed in the order of entries. -/
theorem pairwise_versionsOf
    (c : Catalog)
    (coordinate : String) :
    (c.versionsOf coordinate).Pairwise fun p q => p.key < q.key := by
  unfold versionsOf
  rw [List.pairwise_map]
  refine (c.ordered.filter _).imp_of_mem ?_
  intro a b hFirst hSecond hLess
  have hA := beq_iff_eq.mp (List.mem_filter.mp hFirst).2
  have hB := beq_iff_eq.mp (List.mem_filter.mp hSecond).2
  rcases (LockEntry.lt_iff a b).mp hLess with hOther | ⟨-, hKey⟩
  · rw [hA, hB] at hOther
    exact absurd hOther (String.lt_irrefl _)
  · exact hKey

theorem inVersionOrder_versionsOf
    (c : Catalog)
    (coordinate : String) :
    InVersionOrder (c.versionsOf coordinate) := by
  refine (c.pairwise_versionsOf coordinate).imp ?_
  intro p q hKey
  apply String.not_lt.mp
  intro hMore
  rcases List.cons_lt_cons_iff.mp hKey with hLess | ⟨hSame, -⟩
  · exact String.lt_irrefl _ (String.lt_trans hLess hMore)
  · rw [hSame] at hMore
    exact String.lt_irrefl _ hMore

end Catalog

/- No coordinate of the graph lists a version twice. -/
def ResolvedGraph.DistinctVersions (g : ResolvedGraph) : Prop :=
  ∀ coordinate,
    ((g.catalog.versionsOf coordinate).map (·.version)).Nodup

namespace Workspace

/- The graph of a workspace has one record of each version. -/
theorem distinctVersions_graphWith
    (w : Workspace)
    (sums : List Checksum) :
    (w.graphWith sums).DistinctVersions := by
  intro coordinate
  -- The versions are the same without checksums, and then they are
  -- all that the records are ordered by.
  have hOrdered := (w.graphWith []).catalog.pairwise_versionsOf coordinate
  rw [versionsOf_graphWith_nil w sums, List.pairwise_map] at hOrdered
  rw [List.Nodup, List.pairwise_map]
  refine hOrdered.imp ?_
  intro p q hKey hSame
  unfold LockedPackage.key LockedPackage.withoutChecksum at hKey
  rw [hSame] at hKey
  exact List.lt_irrefl _ hKey

theorem distinctVersions_resolvedGraph
    {w : Workspace}
    {t : FileTree}
    {g : ResolvedGraph}
    (hResolved : w.resolvedGraph t = .ok g) :
    g.DistinctVersions := by
  rcases Except.bind_eq_ok hResolved with ⟨sums, -, hPure⟩
  cases hPure
  exact w.distinctVersions_graphWith sums

end Workspace

------------------------------------------------------------
-- Divergences
------------------------------------------------------------

theorem drift?_eq_some_iff
    {coordinate : String}
    {locked resolved : List LockedPackage}
    {d : Drift} :
    drift? coordinate locked resolved = some d ↔
      (locked = [] ∧ resolved ≠ [] ∧ d = .added coordinate resolved) ∨
      (locked ≠ [] ∧ resolved = [] ∧ d = .removed coordinate locked) ∨
      (locked ≠ [] ∧ resolved ≠ [] ∧
        sameResolution locked resolved = false ∧
        d = .changed coordinate locked resolved) := by
  rw [eq_comm (a := d), eq_comm (a := d), eq_comm (a := d)]
  cases locked with
  | nil => cases resolved <;> simp [drift?]
  | cons l ls =>
      cases resolved with
      | nil => simp [drift?]
      | cons r rs =>
          simp only [drift?]
          split
          · next hSame => simp [hSame]
          · next hDiffer => simp [hDiffer]

/-
  The divergences of a graph from a snapshot: coordinates of
  one side only, and those of both whose versions cannot be
  paired.  Each comes with all versions of the sides it names.
-/
inductive Drift.Reports
    (s : LockSnapshot)
    (g : ResolvedGraph) : Drift → Prop where
  | added
      {coordinate : String}
      (hNotLocked : coordinate ∉ s.catalog.coordinates)
      (hResolved : coordinate ∈ g.catalog.coordinates) :
      Reports s g (.added coordinate (g.catalog.versionsOf coordinate))
  | removed
      {coordinate : String}
      (hLocked : coordinate ∈ s.catalog.coordinates)
      (hNotResolved : coordinate ∉ g.catalog.coordinates) :
      Reports s g (.removed coordinate (s.catalog.versionsOf coordinate))
  | changed
      {coordinate : String}
      (hLocked : coordinate ∈ s.catalog.coordinates)
      (hResolved : coordinate ∈ g.catalog.coordinates)
      (hUnpaired :
        ¬ Paired (s.catalog.versionsOf coordinate)
          (g.catalog.versionsOf coordinate)) :
      Reports s g
        (.changed coordinate (s.catalog.versionsOf coordinate)
          (g.catalog.versionsOf coordinate))

namespace LockSnapshot

variable {s : LockSnapshot} {g : ResolvedGraph}

/- What is reported is the divergence at some coordinate. -/
theorem mem_diff_iff {d : Drift} :
    d ∈ s.diff g ↔
      ∃ coordinate,
        drift? coordinate (s.catalog.versionsOf coordinate)
            (g.catalog.versionsOf coordinate) =
          some d := by
  unfold diff
  rw [List.mem_filterMap]
  constructor
  · rintro ⟨coordinate, -, hDrift⟩
    exact ⟨coordinate, hDrift⟩
  · rintro ⟨coordinate, hDrift⟩
    refine ⟨coordinate, ?_, hDrift⟩
    rw [mem_allCoordinates_iff]
    by_contra hNone
    rw [not_or] at hNone
    rw [Catalog.versionsOf_eq_nil_iff.mpr hNone.1,
      Catalog.versionsOf_eq_nil_iff.mpr hNone.2] at hDrift
    cases hDrift

/- The two sides agree where their records can be paired. -/
theorem agreesAt_eq_false_iff
    (hDistinct : g.DistinctVersions)
    {coordinate : String} :
    s.agreesAt g coordinate = false ↔
      ¬ Paired (s.catalog.versionsOf coordinate)
        (g.catalog.versionsOf coordinate) := by
  unfold agreesAt
  rw [← Bool.not_eq_true, sameResolution_iff_paired
    (Catalog.inVersionOrder_versionsOf _ _)
    (Catalog.inVersionOrder_versionsOf _ _) (hDistinct coordinate)]

theorem mem_diff_iff_reports
    (hDistinct : g.DistinctVersions)
    {d : Drift} :
    d ∈ s.diff g ↔ d.Reports s g := by
  have hPaired (coordinate : String) :
      sameResolution (s.catalog.versionsOf coordinate)
          (g.catalog.versionsOf coordinate) = false ↔
        ¬ Paired (s.catalog.versionsOf coordinate)
          (g.catalog.versionsOf coordinate) :=
    agreesAt_eq_false_iff hDistinct
  simp only [mem_diff_iff, drift?_eq_some_iff, ne_eq,
    Catalog.versionsOf_eq_nil_iff, not_not, hPaired]
  constructor
  · rintro ⟨coordinate, ⟨hLocked, hResolved, rfl⟩ |
      ⟨hLocked, hResolved, rfl⟩ | ⟨hLocked, hResolved, hNone, rfl⟩⟩
    · exact .added hLocked hResolved
    · exact .removed hLocked hResolved
    · exact .changed hLocked hResolved hNone
  · intro hReports
    cases hReports with
    | added hNotLocked hResolved =>
        exact ⟨_, .inl ⟨hNotLocked, hResolved, rfl⟩⟩
    | removed hLocked hNotResolved =>
        exact ⟨_, .inr (.inl ⟨hLocked, hNotResolved, rfl⟩)⟩
    | changed hLocked hResolved hUnpaired =>
        exact ⟨_, .inr (.inr ⟨hLocked, hResolved, hUnpaired, rfl⟩)⟩

/-
  The comparison is exact.  It reports, in the order of the
  coordinates and once each, those of one side only and those
  whose records cannot be paired one to one; a graph is
  accepted if there are none, and else refused with all of
  them.
-/
theorem diff_exact
    (s : LockSnapshot)
    (hDistinct : g.DistinctVersions) :
    ((s.diff g).map Drift.coordinate).Pairwise (· < ·) ∧
    (∀ coordinate,
      coordinate ∈ (s.diff g).map Drift.coordinate ↔
        ¬ (coordinate ∈ s.catalog.coordinates ↔
            coordinate ∈ g.catalog.coordinates) ∨
          ¬ Paired (s.catalog.versionsOf coordinate)
            (g.catalog.versionsOf coordinate)) ∧
    (∀ d, d ∈ s.diff g ↔ d.Reports s g) ∧
    (s.verify g = .ok () ↔ s.diff g = []) ∧
    (s.diff g ≠ [] →
      s.verify g = .error (.lockMismatch (s.diff g))) := by
  refine ⟨pairwise_coordinates_diff s g, ?_,
    fun _ => mem_diff_iff_reports hDistinct, ?_, ?_⟩
  · intro coordinate
    rw [mem_coordinates_diff_iff, agreesAt_eq_false_iff hDistinct,
      or_iff_right_of_imp]
    intro hOneSide hPaired
    apply hOneSide
    rw [← not_iff_not, ← Catalog.versionsOf_eq_nil_iff,
      ← Catalog.versionsOf_eq_nil_iff, ← List.length_eq_zero_iff,
      ← List.length_eq_zero_iff, hPaired.length_eq]
  · unfold verify
    split
    · next hNone => exact iff_of_true rfl hNone
    · next hSome => exact iff_of_false nofun hSome
  · exact fun hSome => if_neg hSome

end LockSnapshot

namespace Sample

/- A workspace with two versions of one dependency. -/
def twoVersions : Workspace where
  directory := "/p"
  packages :=
    [{ name := "n", version := "2.0.0", id := "i", manifest := "" },
      { name := "n", version := "1.0.0", id := "j", manifest := "" },
      { name := "o", version := "1.0.0", id := "k", manifest := "" },
      { name := "p", version := "1.0.1", id := "l", manifest := "" }]
  members := []
  root := .absent

/- Its graph, with a checksum for one of its versions. -/
def twoVersionsGraph : ResolvedGraph :=
  twoVersions.graphWith
    [{ name := "n", version := "1.0.0", sum := "a" }]

/- A record of a version without a checksum. -/
def plainRecord (version : String) : LockedPackage where
  version := version
  checksum := none

/- A snapshot that has a checksum for the other version. -/
def olderSnapshot : LockSnapshot where
  catalog :=
    .ofEntries
      [{ coordinate := "m", package := plainRecord "1.0.0" },
        { coordinate := "n", package := plainRecord "1.0.0" },
        { coordinate := "n"
          package := { version := "2.0.0", checksum := some "b" } },
        { coordinate := "p", package := plainRecord "1.0.0" }]

/- How the graph diverges from the snapshot. -/
def olderDrift : List Drift :=
  [.removed "m" [plainRecord "1.0.0"], .added "o" [plainRecord "1.0.0"],
    .changed "p" [plainRecord "1.0.0"] [plainRecord "1.0.1"]]

theorem diff_olderSnapshot :
    olderSnapshot.diff twoVersionsGraph = olderDrift := by
  decide +kernel

end Sample

/-
  Of the four coordinates of the sample, the one with two
  versions is the one whose records can be paired.
-/
theorem LockSnapshot.sample_diff_exact :
    Sample.twoVersionsGraph.DistinctVersions ∧
    Paired (Sample.olderSnapshot.catalog.versionsOf "n")
      (Sample.twoVersionsGraph.catalog.versionsOf "n") ∧
    ¬ Paired (Sample.olderSnapshot.catalog.versionsOf "p")
      (Sample.twoVersionsGraph.catalog.versionsOf "p") ∧
    Sample.olderSnapshot.verify Sample.twoVersionsGraph =
      .error (.lockMismatch Sample.olderDrift) := by
  have hDistinct : Sample.twoVersionsGraph.DistinctVersions :=
    Workspace.distinctVersions_graphWith _ _
  rcases diff_exact Sample.olderSnapshot hDistinct with
    ⟨-, hCoordinates, hReports, -, hRefused⟩
  rw [Sample.diff_olderSnapshot] at hCoordinates hReports hRefused
  refine ⟨hDistinct, ?_, ?_, hRefused nofun⟩
  · by_contra hNot
    have hMember := (hCoordinates "n").mpr (.inr hNot)
    revert hMember
    decide
  · have hChanged :=
      (hReports (.changed "p" [Sample.plainRecord "1.0.0"]
        [Sample.plainRecord "1.0.1"])).mp (by decide)
    cases hChanged with
    | changed hLocked hResolved hUnpaired => exact hUnpaired

end ReleasePipeline
