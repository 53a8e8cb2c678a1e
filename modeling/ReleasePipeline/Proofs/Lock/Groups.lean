import ReleasePipeline.Lock.Catalog

/-
  This file proves that a catalog is the same as its groups:
  coordinates in increasing order, each with the versions
  recorded for it, of which there is one at least, in
  increasing order too.

  Key definitions include:
    * `LockedPackage.key`
    * `Catalog.ungrouped`
    * `Catalog.IsGrouping`

  Main declarations:
    * `LockEntry.lt_iff`
    * `Catalog.ungrouped_groups`
    * `Catalog.isGrouping_groups`
    * `Catalog.groupEntries_ungrouped`
    * `Catalog.exists_groups_eq_iff`
-/

------------------------------------------------------------
-- The Order of Versions
------------------------------------------------------------

namespace ReleasePipeline

/- The texts that order the versions of one coordinate. -/
def LockedPackage.key (p : LockedPackage) : List String :=
  p.version :: p.checksum.toList

/- Entries are ordered by coordinate first. -/
theorem LockEntry.lt_iff (a b : LockEntry) :
    a < b ↔
      a.coordinate < b.coordinate ∨
        a.coordinate = b.coordinate ∧
          a.package.key < b.package.key := by
  have hKey :
      ∀ e : LockEntry, e.key = e.coordinate :: e.package.key := by
    intro e
    unfold LockEntry.key LockedPackage.key
    cases e.package.checksum with
    | none => rfl
    | some sum => rfl
  have hLess : a < b ↔ a.key < b.key := Iff.rfl
  rw [hLess, hKey, hKey, List.cons_lt_cons_iff]

namespace Catalog

------------------------------------------------------------
-- Groups
------------------------------------------------------------

/- The entries of groups, one group after another. -/
def ungrouped
    (gs : List (String × List LockedPackage)) : List LockEntry :=
  gs.flatMap fun g =>
    g.2.map fun p => { coordinate := g.1, package := p }

/- The groups that a catalog can have. -/
structure IsGrouping
    (gs : List (String × List LockedPackage)) : Prop where
  ordered : gs.Pairwise fun g h => g.1 < h.1
  nonempty : ∀ g ∈ gs, g.2 ≠ []
  versions : ∀ g ∈ gs, g.2.Pairwise fun p q => p.key < q.key

variable {gs : List (String × List LockedPackage)}
variable {es : List LockEntry}

theorem mem_ungrouped {e : LockEntry} :
    e ∈ ungrouped gs ↔ ∃ ps, (e.coordinate, ps) ∈ gs ∧ e.package ∈ ps := by
  rcases e with ⟨c, p⟩
  unfold ungrouped
  simp only [List.mem_flatMap, List.mem_map, LockEntry.mk.injEq]
  constructor
  · rintro ⟨⟨d, ps⟩, hMem, q, hPackage, rfl, rfl⟩
    exact ⟨ps, hMem, hPackage⟩
  · rintro ⟨ps, hMem, hPackage⟩
    exact ⟨(c, ps), hMem, p, hPackage, rfl, rfl⟩

theorem ungrouped_groupEntries (es : List LockEntry) :
    ungrouped (groupEntries es) = es := by
  induction es with
  | nil => rfl
  | cons e es ih =>
      unfold groupEntries
      split
      · next hNone =>
          rw [hNone] at ih
          rw [← ih]
          rfl
      · next c ps more hSome =>
          rw [hSome] at ih
          rw [← ih]
          split
          · next hSame =>
              subst hSame
              rfl
          · rfl

/- The groups of a catalog hold its entries in their order. -/
theorem ungrouped_groups (c : Catalog) :
    ungrouped c.groups = c.entries :=
  ungrouped_groupEntries c.entries

------------------------------------------------------------
-- From Entries to Groups
------------------------------------------------------------

/- An entry opens a group of its own, or joins the first one. -/
theorem IsGrouping.cons
    {e : LockEntry}
    (hGroups : IsGrouping gs)
    (hNew : ∀ g ∈ gs, e.coordinate < g.1) :
    IsGrouping ((e.coordinate, [e.package]) :: gs) where
  ordered := List.pairwise_cons.mpr ⟨hNew, hGroups.ordered⟩
  nonempty := by
    intro g hMem
    rcases List.mem_cons.mp hMem with rfl | hMem
    · simp
    · exact hGroups.nonempty g hMem
  versions := by
    intro g hMem
    rcases List.mem_cons.mp hMem with rfl | hMem
    · simp
    · exact hGroups.versions g hMem

theorem IsGrouping.join
    {c : String}
    {p : LockedPackage}
    {ps : List LockedPackage}
    (hGroups : IsGrouping ((c, ps) :: gs))
    (hFirst : ∀ q ∈ ps, p.key < q.key) :
    IsGrouping ((c, p :: ps) :: gs) where
  ordered := by
    have hOrdered := List.pairwise_cons.mp hGroups.ordered
    exact List.pairwise_cons.mpr hOrdered
  nonempty := by
    intro g hMem
    rcases List.mem_cons.mp hMem with rfl | hMem
    · simp
    · exact hGroups.nonempty g (List.mem_cons_of_mem _ hMem)
  versions := by
    intro g hMem
    rcases List.mem_cons.mp hMem with rfl | hMem
    · have hRest := hGroups.versions (c, ps) List.mem_cons_self
      exact List.pairwise_cons.mpr ⟨hFirst, hRest⟩
    · exact hGroups.versions g (List.mem_cons_of_mem _ hMem)

/- An entry below a group has a smaller coordinate, or the same. -/
theorem IsGrouping.coordinate_lt
    {e : LockEntry}
    {c : String}
    {ps : List LockedPackage}
    (hGroups : IsGrouping ((c, ps) :: gs))
    (hLower : ∀ p ∈ ps, e < { coordinate := c, package := p })
    (hOther : c ≠ e.coordinate) :
    ∀ g ∈ (c, ps) :: gs, e.coordinate < g.1 := by
  have hNonempty := hGroups.nonempty (c, ps) List.mem_cons_self
  have hLess := hLower _ (List.head_mem hNonempty)
  have hFirst : e.coordinate < c := by
    rcases (LockEntry.lt_iff _ _).mp hLess with hLess | hLess
    · exact hLess
    · exact absurd hLess.1.symm hOther
  have hParts := List.pairwise_cons.mp hGroups.ordered
  intro g hMem
  rcases List.mem_cons.mp hMem with rfl | hMem
  · exact hFirst
  · exact String.lt_trans hFirst (hParts.1 g hMem)

theorem isGrouping_groupEntries
    (hOrdered : es.Pairwise (· < ·)) :
    IsGrouping (groupEntries es) := by
  induction es with
  | nil =>
      exact ⟨List.Pairwise.nil, by simp [groupEntries],
        by simp [groupEntries]⟩
  | cons e es ih =>
      have hParts := List.pairwise_cons.mp hOrdered
      have hGroups := ih hParts.2
      have hEntries := ungrouped_groupEntries es
      -- Each group has a version, and the entry lies below it.
      have hLower :
          ∀ g ∈ groupEntries es, ∀ p ∈ g.2,
            e < { coordinate := g.1, package := p } := by
        intro g hGroup p hPackage
        refine hParts.1 _ ?_
        rw [← hEntries, mem_ungrouped]
        exact ⟨g.2, hGroup, hPackage⟩
      unfold groupEntries
      split
      · exact IsGrouping.cons ⟨List.Pairwise.nil, by simp, by simp⟩
          (by simp)
      · next c ps more hSome =>
          rw [hSome] at hGroups hLower
          split
          · next hSame =>
              refine hGroups.join ?_
              intro q hMem
              have hLess := hLower (c, ps) List.mem_cons_self q hMem
              rcases (LockEntry.lt_iff _ _).mp hLess with hLess | hLess
              · rw [hSame] at hLess
                exact absurd hLess (String.lt_irrefl _)
              · exact hLess.2
          · next hOther =>
              have hFirst := hLower (c, ps) List.mem_cons_self
              exact hGroups.cons (hGroups.coordinate_lt hFirst hOther)

/- Coordinates and versions of a catalog increase. -/
theorem isGrouping_groups (c : Catalog) :
    IsGrouping c.groups :=
  isGrouping_groupEntries c.ordered

------------------------------------------------------------
-- From Groups to Entries
------------------------------------------------------------

theorem pairwise_ungrouped
    (hGroups : IsGrouping gs) :
    (ungrouped gs).Pairwise (· < ·) := by
  unfold ungrouped
  rw [List.pairwise_flatMap]
  constructor
  · intro g hMem
    rw [List.pairwise_map]
    refine (hGroups.versions g hMem).imp ?_
    intro p q hLess
    exact (LockEntry.lt_iff _ _).mpr (.inr ⟨rfl, hLess⟩)
  · refine hGroups.ordered.imp ?_
    intro g h hLess d hFirst e hSecond
    rcases List.mem_map.mp hFirst with ⟨p, -, rfl⟩
    rcases List.mem_map.mp hSecond with ⟨q, -, rfl⟩
    exact (LockEntry.lt_iff _ _).mpr (.inl hLess)

/- The versions of a new coordinate make a group of their own. -/
theorem groupEntries_append
    {c : String}
    {ps : List LockedPackage}
    (hNonempty : ps ≠ [])
    (hNew : ∀ g ∈ groupEntries es, g.1 ≠ c) :
    groupEntries
        (ps.map (fun p => { coordinate := c, package := p }) ++ es) =
      (c, ps) :: groupEntries es := by
  induction ps with
  | nil => exact absurd rfl hNonempty
  | cons p ps ih =>
      rw [List.map_cons, List.cons_append, groupEntries]
      cases ps with
      | nil =>
          rw [List.map_nil, List.nil_append]
          cases hGroups : groupEntries es with
          | nil => rfl
          | cons g more =>
              have hOther : g.1 ≠ c := hNew g (by simp [hGroups])
              dsimp only
              rw [if_neg hOther]
      | cons q qs =>
          rw [ih (by simp)]
          dsimp only
          rw [if_pos rfl]

theorem groupEntries_ungrouped
    (hGroups : IsGrouping gs) :
    groupEntries (ungrouped gs) = gs := by
  induction gs with
  | nil => rfl
  | cons g gs ih =>
      have hParts := List.pairwise_cons.mp hGroups.ordered
      have hRest : IsGrouping gs :=
        { ordered := hParts.2
          nonempty := fun h hMem =>
            hGroups.nonempty h (List.mem_cons_of_mem g hMem)
          versions := fun h hMem =>
            hGroups.versions h (List.mem_cons_of_mem g hMem) }
      have hSame := ih hRest
      have hNew : ∀ h ∈ groupEntries (ungrouped gs), h.1 ≠ g.1 := by
        rw [hSame]
        intro h hMem hEq
        have hLess := hParts.1 h hMem
        rw [hEq] at hLess
        exact absurd hLess (String.lt_irrefl _)
      have hAppend :=
        groupEntries_append (hGroups.nonempty g List.mem_cons_self) hNew
      rw [hSame] at hAppend
      exact hAppend

/- Every such list of groups is that of one catalog. -/
theorem exists_groups_eq_iff :
    (∃ c : Catalog, c.groups = gs) ↔ IsGrouping gs := by
  constructor
  · rintro ⟨c, rfl⟩
    exact isGrouping_groups c
  · intro hGroups
    refine ⟨{ entries := ungrouped gs
              ordered := pairwise_ungrouped hGroups }, ?_⟩
    exact groupEntries_ungrouped hGroups

end Catalog

end ReleasePipeline
