import ReleasePipeline.Lock.Entry

/-
  This file defines the catalog that a snapshot and a resolved
  graph are made of: a set of lock entries, kept strictly
  increasing.  A catalog is determined by its members, so the
  order in which entries arrive and their repetition leave no
  trace.

  Key definitions include:
    * `Catalog`
    * `Catalog.insert`, `Catalog.ofEntries`
    * `Catalog.ext_mem`
    * `Catalog.groups`
    * `Catalog.versionsOf`
-/

------------------------------------------------------------
-- Ordered Insertion
------------------------------------------------------------

namespace ReleasePipeline

namespace Catalog

/- Put an entry at its place, unless it is there already. -/
def insertOrdered
    (e : LockEntry) : List LockEntry → List LockEntry
  | [] => [e]
  | d :: ds =>
      if e < d then
        e :: d :: ds
      else if e = d then
        d :: ds
      else
        d :: insertOrdered e ds

theorem mem_insertOrdered
    {x e : LockEntry}
    {es : List LockEntry} :
    x ∈ insertOrdered e es ↔ x = e ∨ x ∈ es := by
  induction es with
  | nil => simp [insertOrdered]
  | cons d ds ih =>
      simp only [insertOrdered]
      split
      · simp
      · split
        · next h =>
            subst h
            simp
        · simp only [List.mem_cons, ih]
          constructor
          · rintro (h | h | h) <;> simp [h]
          · rintro (h | h | h) <;> simp [h]

theorem pairwise_insertOrdered
    {e : LockEntry}
    {es : List LockEntry}
    (h : es.Pairwise (· < ·)) :
    (insertOrdered e es).Pairwise (· < ·) := by
  induction es with
  | nil => simp [insertOrdered]
  | cons d ds ih =>
      have ⟨hd, hds⟩ := List.pairwise_cons.mp h
      simp only [insertOrdered]
      split
      · next hlt =>
          refine List.pairwise_cons.mpr ⟨?_, h⟩
          intro x hx
          rcases List.mem_cons.mp hx with hx | hx
          · exact hx ▸ hlt
          · exact LockEntry.lt_trans hlt (hd x hx)
      · split
        · exact h
        · next hnlt hne =>
            refine List.pairwise_cons.mpr ⟨?_, ih hds⟩
            intro x hx
            rcases mem_insertOrdered.mp hx with hx | hx
            · rcases LockEntry.lt_or_eq_or_gt e d with h | h | h
              · exact absurd h hnlt
              · exact absurd h hne
              · exact hx ▸ h
            · exact hd x hx

end Catalog

------------------------------------------------------------
-- Catalogs
------------------------------------------------------------

/- A set of lock entries, listed in their order. -/
structure Catalog where
  entries : List LockEntry
  ordered : entries.Pairwise (· < ·)
deriving DecidableEq, Repr

namespace Catalog

/- The catalog without entries. -/
def empty : Catalog where
  entries := []
  ordered := List.Pairwise.nil

/- Add an entry. -/
def insert
    (c : Catalog)
    (e : LockEntry) : Catalog where
  entries := insertOrdered e c.entries
  ordered := pairwise_insertOrdered c.ordered

/- The catalog of the entries in a list. -/
def ofEntries (es : List LockEntry) : Catalog :=
  es.foldl insert empty

theorem mem_foldl_insert
    {x : LockEntry}
    {es : List LockEntry}
    {c : Catalog} :
    x ∈ (es.foldl insert c).entries ↔ x ∈ es ∨ x ∈ c.entries := by
  induction es generalizing c with
  | nil => simp
  | cons e es ih =>
      simp only [List.foldl_cons, ih, insert, mem_insertOrdered,
        List.mem_cons]
      constructor
      · rintro (h | h | h) <;> simp [h]
      · rintro ((h | h) | h) <;> simp [h]

/- The members of a catalog are those it was made from. -/
theorem mem_ofEntries
    {x : LockEntry}
    {es : List LockEntry} :
    x ∈ (ofEntries es).entries ↔ x ∈ es := by
  simp [ofEntries, mem_foldl_insert, empty]

/- Strictly increasing lists with the same members are equal. -/
theorem eq_of_pairwise_of_mem_iff
    {as bs : List LockEntry}
    (ha : as.Pairwise (· < ·))
    (hb : bs.Pairwise (· < ·))
    (h : ∀ x, x ∈ as ↔ x ∈ bs) :
    as = bs := by
  induction as generalizing bs with
  | nil =>
      cases bs with
      | nil => rfl
      | cons b bs => exact absurd ((h b).mpr (by simp)) (by simp)
  | cons a as ih =>
      cases bs with
      | nil => exact absurd ((h a).mp (by simp)) (by simp)
      | cons b bs =>
          have ⟨ha', has⟩ := List.pairwise_cons.mp ha
          have ⟨hb', hbs⟩ := List.pairwise_cons.mp hb
          have hab : a = b := by
            rcases List.mem_cons.mp ((h a).mp (by simp)) with e | hm
            · exact e
            · rcases List.mem_cons.mp ((h b).mpr (by simp)) with e | hm'
              · exact e.symm
              · exact absurd
                  (LockEntry.lt_trans (ha' b hm') (hb' a hm))
                  (LockEntry.lt_irrefl a)
          subst hab
          refine congrArg _ (ih has hbs fun x => ?_)
          constructor
          · intro hx
            rcases List.mem_cons.mp ((h x).mp (by simp [hx])) with e | hm
            · exact absurd (e ▸ ha' x hx) (LockEntry.lt_irrefl a)
            · exact hm
          · intro hx
            rcases List.mem_cons.mp ((h x).mpr (by simp [hx])) with e | hm
            · exact absurd (e ▸ hb' x hx) (LockEntry.lt_irrefl a)
            · exact hm

/- A catalog is determined by its members. -/
theorem ext_mem
    {c d : Catalog}
    (h : ∀ x, x ∈ c.entries ↔ x ∈ d.entries) :
    c = d := by
  rcases c with ⟨cs, hc⟩
  rcases d with ⟨ds, hd⟩
  have := eq_of_pairwise_of_mem_iff hc hd h
  subst this
  rfl

/- A catalog made again from its own entries is itself. -/
theorem ofEntries_entries
    (c : Catalog) :
    ofEntries c.entries = c :=
  ext_mem fun _ => mem_ofEntries

------------------------------------------------------------
-- Grouping by Coordinate
------------------------------------------------------------

/- Gather neighbouring entries of one coordinate. -/
def groupEntries : List LockEntry → List (String × List LockedPackage)
  | [] => []
  | e :: es =>
      match groupEntries es with
      | [] => [(e.coordinate, [e.package])]
      | (c, ps) :: more =>
          if c = e.coordinate then
            (c, e.package :: ps) :: more
          else
            (e.coordinate, [e.package]) :: (c, ps) :: more

/- Each coordinate with its versions, in order. -/
def groups (c : Catalog) : List (String × List LockedPackage) :=
  groupEntries c.entries

/- The coordinates of a catalog, in order and once each. -/
def coordinates (c : Catalog) : List String :=
  c.groups.map (·.1)

/- The versions recorded for a coordinate, in order. -/
def versionsOf
    (c : Catalog)
    (coordinate : String) : List LockedPackage :=
  (c.entries.filter (·.coordinate == coordinate)).map (·.package)

/- The number of coordinates. -/
def size (c : Catalog) : Nat :=
  c.groups.length

end Catalog

end ReleasePipeline
