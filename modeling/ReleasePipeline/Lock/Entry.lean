/-
  This file defines what a lock records of one dependency:
  its coordinate, a version and perhaps a checksum.  Entries
  are ordered by coordinate, then version, then checksum, an
  absent checksum before any other.  The order is total.

  Key definitions include:
    * `LockedPackage`
    * `LockEntry`
    * `LockEntry.key`
    * `LockEntry.lt_or_eq_or_gt`
-/

------------------------------------------------------------
-- Entries
------------------------------------------------------------

namespace ReleasePipeline

/- One resolved version of a dependency. -/
structure LockedPackage where
  version : String
  checksum : Option String
deriving DecidableEq, Repr

/- A version under the coordinate it was resolved for. -/
structure LockEntry where
  coordinate : String
  package : LockedPackage
deriving DecidableEq, Repr

------------------------------------------------------------
-- Order
------------------------------------------------------------

/-
  The texts that order an entry.  A present checksum is
  marked, so that it comes after an absent one even when it
  is empty.
-/
def LockEntry.key (e : LockEntry) : List String :=
  [e.coordinate, e.package.version] ++
    match e.package.checksum with
    | none => []
    | some sum => [sum]

instance : LT LockEntry where
  lt a b := a.key < b.key

instance (a b : LockEntry) : Decidable (a < b) :=
  inferInstanceAs (Decidable (a.key < b.key))

namespace LockEntry

/- Entries with the same key are the same. -/
theorem eq_of_key_eq
    {a b : LockEntry}
    (h : a.key = b.key) :
    a = b := by
  rcases a with ⟨ca, va, sa⟩
  rcases b with ⟨cb, vb, sb⟩
  cases sa <;> cases sb <;> simp_all [key]

theorem lt_irrefl (a : LockEntry) : ¬ a < a :=
  List.lt_irrefl a.key

theorem lt_trans
    {a b c : LockEntry}
    (hab : a < b)
    (hbc : b < c) :
    a < c :=
  List.lt_trans (α := String) hab hbc

/- Any two entries can be compared. -/
theorem lt_or_eq_or_gt
    (a b : LockEntry) :
    a < b ∨ a = b ∨ b < a := by
  by_cases hab : a < b
  · exact .inl hab
  · by_cases hba : b < a
    · exact .inr (.inr hba)
    · exact .inr (.inl (eq_of_key_eq (List.le_antisymm hba hab)))

end LockEntry

end ReleasePipeline
