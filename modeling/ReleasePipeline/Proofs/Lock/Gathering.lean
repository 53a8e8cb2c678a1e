import Mathlib.Data.List.Destutter
import Mathlib.Data.List.Forall2
import ReleasePipeline.Lock.Drift
import ReleasePipeline.Proofs.Lock.Groups

/-
  This file proves that a catalog can be made in two steps.
  First the versions of each coordinate are gathered in the
  order in which they come, with their repetitions; then each
  list of versions is sorted, and neighbours that are equal
  are dropped.  Sorted lists depend on the members of a list
  alone, and so does all that is made of them.

  Key definitions include:
    * `sortedVersions`
    * `VersionLists`, `VersionLists.push`
    * `VersionLists.ofEntries`, `VersionLists.sorted`
    * `VersionLists.SameVersions`
    * `ResolvedGraph.ofLists`

  Main declarations:
    * `sortedVersions_congr`
    * `VersionLists.sorted_congr`
    * `Catalog.groups_ofEntries`
    * `ResolvedGraph.groups_ofLists`
-/

------------------------------------------------------------
-- Sorted Versions
------------------------------------------------------------

namespace ReleasePipeline

theorem mem_destutter'_ne
    {α : Type}
    [DecidableEq α]
    {as : List α}
    {a b : α} :
    a ∈ as.destutter' (· ≠ ·) b ↔ a ∈ b :: as := by
  induction as generalizing b with
  | nil => simp
  | cons c as ih =>
      by_cases hSame : b = c
      · subst hSame
        rw [List.destutter'_cons_neg _ (not_not.mpr rfl), ih]
        simp
      · rw [List.destutter'_cons_pos _ hSame, List.mem_cons, ih,
          List.mem_cons (a := a) (b := b)]

/- Of neighbours that are equal one is kept. -/
theorem mem_destutter_ne
    {α : Type}
    [DecidableEq α]
    {as : List α}
    {a : α} :
    a ∈ as.destutter (· ≠ ·) ↔ a ∈ as := by
  cases as with
  | nil => simp
  | cons b as => exact mem_destutter'_ne

namespace LockedPackage

/- Versions with the same key are the same. -/
theorem eq_of_key_eq
    {p q : LockedPackage}
    (hKey : p.key = q.key) :
    p = q := by
  rcases p with ⟨v, sum⟩
  rcases q with ⟨u, sum'⟩
  cases sum <;> cases sum' <;> simp_all [key]

/- Whether a version may stand before another. -/
def notAfter (p q : LockedPackage) : Bool :=
  !decide (q.key < p.key)

theorem notAfter_iff {p q : LockedPackage} :
    p.notAfter q = true ↔ ¬ q.key < p.key := by
  unfold notAfter
  rw [Bool.not_eq_true', decide_eq_false_iff_not]

theorem notAfter_trans
    (p q r : LockedPackage)
    (hFirst : p.notAfter q = true)
    (hSecond : q.notAfter r = true) :
    p.notAfter r = true := by
  rw [notAfter_iff, List.not_lt] at hFirst hSecond ⊢
  exact List.le_trans hFirst hSecond

theorem notAfter_total (p q : LockedPackage) :
    (p.notAfter q || q.notAfter p) = true := by
  rw [Bool.or_eq_true, notAfter_iff, notAfter_iff, List.not_lt,
    List.not_lt]
  exact List.le_total p.key q.key

/- What may stand before another and differs has a smaller key. -/
theorem key_lt_of_notAfter
    {p q : LockedPackage}
    (hNotAfter : p.notAfter q = true)
    (hDiffer : p ≠ q) :
    p.key < q.key := by
  rw [notAfter_iff, List.not_lt] at hNotAfter
  by_contra hNot
  rw [List.not_lt] at hNot
  exact hDiffer (eq_of_key_eq (List.le_antisymm hNotAfter hNot))

end LockedPackage

/- Versions in their order, each of them once. -/
def sortedVersions (ps : List LockedPackage) : List LockedPackage :=
  (ps.mergeSort LockedPackage.notAfter).destutter (· ≠ ·)

theorem mem_sortedVersions
    {ps : List LockedPackage}
    {p : LockedPackage} :
    p ∈ sortedVersions ps ↔ p ∈ ps := by
  unfold sortedVersions
  rw [mem_destutter_ne, List.mem_mergeSort]

instance :
    Trans (fun p q : LockedPackage => p.key < q.key)
      (fun p q : LockedPackage => p.key < q.key)
      (fun p q : LockedPackage => p.key < q.key) where
  trans := List.lt_trans

/- The versions increase, since no two neighbours are equal. -/
theorem pairwise_sortedVersions (ps : List LockedPackage) :
    (sortedVersions ps).Pairwise fun p q => p.key < q.key := by
  have hSorted : (sortedVersions ps).IsChain fun p q => p.notAfter q := by
    apply List.Pairwise.isChain
    apply List.Pairwise.sublist (List.destutter_sublist _ _)
    exact List.pairwise_mergeSort LockedPackage.notAfter_trans
      LockedPackage.notAfter_total ps
  have hApart : (sortedVersions ps).IsChain (· ≠ ·) :=
    List.isChain_destutter _ _
  apply List.IsChain.pairwise
  rw [List.isChain_iff_forall_rel_of_append_cons_cons]
    at hSorted hApart ⊢
  intro p q before after hParts
  exact LockedPackage.key_lt_of_notAfter (hSorted hParts)
    (hApart hParts)

/- Lists with the same members are sorted into the same list. -/
theorem sortedVersions_congr
    {ps qs : List LockedPackage}
    (hSame : ∀ p, p ∈ ps ↔ p ∈ qs) :
    sortedVersions ps = sortedVersions qs := by
  have hFirst := pairwise_sortedVersions ps
  have hSecond := pairwise_sortedVersions qs
  have hOnce {rs : List LockedPackage}
      (hLess : rs.Pairwise fun p q => p.key < q.key) : rs.Nodup := by
    refine hLess.imp ?_
    rintro p q hKey rfl
    exact List.lt_irrefl _ hKey
  have hPerm : (sortedVersions ps).Perm (sortedVersions qs) := by
    rw [List.perm_ext_iff_of_nodup (hOnce hFirst) (hOnce hSecond)]
    intro p
    rw [mem_sortedVersions, mem_sortedVersions, hSame]
  refine hPerm.eq_of_pairwise ?_ hFirst hSecond
  intro p q _ _ hLess hMore
  exact absurd (List.lt_trans hLess hMore) (List.lt_irrefl _)

------------------------------------------------------------
-- Gathered Versions
------------------------------------------------------------

namespace VersionLists

/- Append a version to the list of its coordinate. -/
def pushOrdered
    (e : LockEntry) :
    List (String × List LockedPackage) →
      List (String × List LockedPackage)
  | [] => [(e.coordinate, [e.package])]
  | g :: gs =>
      if e.coordinate < g.1 then
        (e.coordinate, [e.package]) :: g :: gs
      else if e.coordinate = g.1 then
        (g.1, g.2 ++ [e.package]) :: gs
      else
        g :: pushOrdered e gs

variable {gs : List (String × List LockedPackage)}

/- No other coordinate comes in than that of the version. -/
theorem coordinate_of_mem_pushOrdered
    {e : LockEntry}
    {g : String × List LockedPackage}
    (hGroup : g ∈ pushOrdered e gs) :
    g.1 = e.coordinate ∨ ∃ h ∈ gs, h.1 = g.1 := by
  induction gs with
  | nil =>
      rw [List.mem_singleton.mp hGroup]
      exact .inl rfl
  | cons h gs ih =>
      unfold pushOrdered at hGroup
      split at hGroup
      · rcases List.mem_cons.mp hGroup with rfl | hGroup
        · exact .inl rfl
        · exact .inr ⟨g, hGroup, rfl⟩
      · split at hGroup
        · rcases List.mem_cons.mp hGroup with rfl | hGroup
          · exact .inr ⟨h, List.mem_cons_self, rfl⟩
          · exact .inr ⟨g, List.mem_cons_of_mem h hGroup, rfl⟩
        · rcases List.mem_cons.mp hGroup with rfl | hGroup
          · exact .inr ⟨g, List.mem_cons_self, rfl⟩
          · rcases ih hGroup with hNew | ⟨i, hThere, hSame⟩
            · exact .inl hNew
            · exact .inr ⟨i, List.mem_cons_of_mem h hThere, hSame⟩

theorem pairwise_pushOrdered
    {e : LockEntry}
    (hOrdered : gs.Pairwise fun g h => g.1 < h.1) :
    (pushOrdered e gs).Pairwise fun g h => g.1 < h.1 := by
  induction gs with
  | nil => exact List.pairwise_singleton _ _
  | cons g gs ih =>
      have ⟨hFirst, hRest⟩ := List.pairwise_cons.mp hOrdered
      unfold pushOrdered
      split
      · next hLess =>
          refine List.pairwise_cons.mpr ⟨?_, hOrdered⟩
          intro h hGroup
          rcases List.mem_cons.mp hGroup with rfl | hGroup
          · exact hLess
          · exact String.lt_trans hLess (hFirst h hGroup)
      · next hNotLess =>
          split
          · exact List.pairwise_cons.mpr ⟨hFirst, hRest⟩
          · next hOther =>
              refine List.pairwise_cons.mpr ⟨?_, ih hRest⟩
              intro h hGroup
              rcases coordinate_of_mem_pushOrdered hGroup with
                hNew | ⟨i, hThere, hSame⟩
              · rw [hNew]
                by_contra hNot
                exact hOther (String.le_antisymm
                  (String.not_lt.mp hNot) (String.not_lt.mp hNotLess))
              · rw [← hSame]
                exact hFirst i hThere

theorem nonempty_pushOrdered
    {e : LockEntry}
    (hNonempty : ∀ g ∈ gs, g.2 ≠ []) :
    ∀ g ∈ pushOrdered e gs, g.2 ≠ [] := by
  induction gs with
  | nil => simp [pushOrdered]
  | cons h gs ih =>
      have ⟨hFirst, hRest⟩ := List.forall_mem_cons.mp hNonempty
      unfold pushOrdered
      split
      · exact List.forall_mem_cons.mpr ⟨by simp, hNonempty⟩
      · split
        · exact List.forall_mem_cons.mpr ⟨by simp, hRest⟩
        · exact List.forall_mem_cons.mpr ⟨hFirst, ih hRest⟩

/- The version is added to those that are there. -/
theorem mem_ungrouped_pushOrdered
    {e x : LockEntry} :
    x ∈ Catalog.ungrouped (pushOrdered e gs) ↔
      x = e ∨ x ∈ Catalog.ungrouped gs := by
  unfold Catalog.ungrouped
  induction gs with
  | nil => simp [pushOrdered]
  | cons g gs ih =>
      unfold pushOrdered
      split
      · simp
      · split
        · next hSame =>
            simp only [List.flatMap_cons, List.mem_append,
              List.map_append, List.map_cons, List.map_nil,
              List.mem_singleton, ← hSame]
            exact (or_congr_left or_comm).trans or_assoc
        · simp only [List.flatMap_cons, List.mem_append, ih]
          exact or_left_comm

end VersionLists

/-
  The versions of each coordinate, in the order in which they
  were gathered.
-/
@[ext]
structure VersionLists where
  lists : List (String × List LockedPackage)
  ordered : lists.Pairwise fun g h => g.1 < h.1
deriving DecidableEq, Repr

namespace VersionLists

/- No coordinates. -/
def empty : VersionLists where
  lists := []
  ordered := List.Pairwise.nil

/- Gather one more version. -/
def push
    (m : VersionLists)
    (e : LockEntry) : VersionLists where
  lists := pushOrdered e m.lists
  ordered := pairwise_pushOrdered m.ordered

/- Gather the versions of entries in the order in which they come. -/
def ofEntries (es : List LockEntry) : VersionLists :=
  es.foldl push empty

/- Sort the versions of each coordinate, and keep each once. -/
def sorted (m : VersionLists) : VersionLists where
  lists := m.lists.map fun g => (g.1, sortedVersions g.2)
  ordered := List.pairwise_map.mpr m.ordered

/- The same versions at the same coordinates. -/
def SameVersions (m n : VersionLists) : Prop :=
  List.Forall₂
    (fun g h => g.1 = h.1 ∧ ∀ p, p ∈ g.2 ↔ p ∈ h.2)
    m.lists n.lists

theorem nonempty_ofEntries (es : List LockEntry) :
    ∀ g ∈ (ofEntries es).lists, g.2 ≠ [] := by
  have hFold (m : VersionLists) (hNonempty : ∀ g ∈ m.lists, g.2 ≠ []) :
      ∀ g ∈ (es.foldl push m).lists, g.2 ≠ [] := by
    induction es generalizing m with
    | nil => exact hNonempty
    | cons e es ih =>
        exact ih (m.push e) (nonempty_pushOrdered hNonempty)
  exact hFold empty nofun

/- Every entry is gathered, and nothing else. -/
theorem mem_ungrouped_ofEntries
    {es : List LockEntry}
    {x : LockEntry} :
    x ∈ Catalog.ungrouped (ofEntries es).lists ↔ x ∈ es := by
  have hFold (m : VersionLists) :
      x ∈ Catalog.ungrouped (es.foldl push m).lists ↔
        x ∈ es ∨ x ∈ Catalog.ungrouped m.lists := by
    induction es generalizing m with
    | nil => simp
    | cons e es ih =>
        rw [List.foldl_cons, ih, push, mem_ungrouped_pushOrdered,
          List.mem_cons, or_left_comm, or_assoc]
  rw [ofEntries, hFold]
  exact or_iff_left List.not_mem_nil

theorem mem_ungrouped_sorted
    {m : VersionLists}
    {x : LockEntry} :
    x ∈ Catalog.ungrouped m.sorted.lists ↔
      x ∈ Catalog.ungrouped m.lists := by
  simp only [Catalog.mem_ungrouped, sorted, List.mem_map,
    Prod.mk.injEq]
  constructor
  · rintro ⟨-, ⟨g, hGroup, hName, rfl⟩, hVersion⟩
    refine ⟨g.2, ?_, mem_sortedVersions.mp hVersion⟩
    rw [← hName]
    exact hGroup
  · rintro ⟨ps, hGroup, hVersion⟩
    exact ⟨_, ⟨_, hGroup, rfl, rfl⟩, mem_sortedVersions.mpr hVersion⟩

/- Sorted lists are groups, if there is a version in each. -/
theorem isGrouping_sorted
    {m : VersionLists}
    (hNonempty : ∀ g ∈ m.lists, g.2 ≠ []) :
    Catalog.IsGrouping m.sorted.lists where
  ordered := m.sorted.ordered
  nonempty := by
    intro h hGroup
    rcases List.mem_map.mp hGroup with ⟨g, hThere, rfl⟩
    rcases List.exists_mem_of_ne_nil _ (hNonempty g hThere) with
      ⟨p, hVersion⟩
    exact List.ne_nil_of_mem (mem_sortedVersions.mpr hVersion)
  versions := by
    intro h hGroup
    rcases List.mem_map.mp hGroup with ⟨g, -, rfl⟩
    exact pairwise_sortedVersions g.2

/- Sorting forgets the order and the repetition of versions. -/
theorem sorted_congr
    {m n : VersionLists}
    (hSame : m.SameVersions n) :
    m.sorted = n.sorted := by
  apply VersionLists.ext
  rcases m with ⟨gs, hOrdered⟩
  rcases n with ⟨hs, hOrdered'⟩
  change List.Forall₂ _ gs hs at hSame
  change gs.map _ = hs.map _
  clear hOrdered hOrdered'
  induction hSame with
  | nil => rfl
  | cons hFirst _ ih =>
      rw [List.map_cons, List.map_cons, ih, hFirst.1,
        sortedVersions_congr hFirst.2]

end VersionLists

------------------------------------------------------------
-- Catalogs
------------------------------------------------------------

/- A catalog of the sorted versions has them as its groups. -/
theorem Catalog.groups_of_mem_iff
    {c : Catalog}
    {m : VersionLists}
    (hNonempty : ∀ g ∈ m.lists, g.2 ≠ [])
    (hMembers : ∀ e, e ∈ c.entries ↔ e ∈ ungrouped m.lists) :
    c.groups = m.sorted.lists := by
  rcases exists_groups_eq_iff.mpr
      (VersionLists.isGrouping_sorted hNonempty) with
    ⟨d, hGroups⟩
  have hSame : c = d := by
    apply ext_mem
    intro e
    rw [hMembers, ← VersionLists.mem_ungrouped_sorted, ← hGroups,
      ungrouped_groups]
  rw [hSame, hGroups]

/-
  The groups of a catalog are its entries gathered by their
  coordinates, sorted, and without repetitions.
-/
theorem Catalog.groups_ofEntries (es : List LockEntry) :
    (ofEntries es).groups = (VersionLists.ofEntries es).sorted.lists := by
  apply groups_of_mem_iff (VersionLists.nonempty_ofEntries es)
  intro e
  rw [mem_ofEntries, VersionLists.mem_ungrouped_ofEntries]

/- The graph of some versions. -/
def ResolvedGraph.ofLists (m : VersionLists) : ResolvedGraph :=
  .ofEntries (Catalog.ungrouped m.lists)

theorem ResolvedGraph.groups_ofLists
    {m : VersionLists}
    (hNonempty : ∀ g ∈ m.lists, g.2 ≠ []) :
    (ofLists m).catalog.groups = m.sorted.lists :=
  Catalog.groups_of_mem_iff hNonempty fun _ => Catalog.mem_ofEntries

end ReleasePipeline
