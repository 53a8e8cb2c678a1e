import ReleasePipeline.Data.Datum
import ReleasePipeline.Lock.Drift

/-
  This file defines the values that stand for locked versions
  and divergences in a document.

  Key definitions include:
    * `LockedPackage.toDatum`
    * `Drift.toDatum`
-/

------------------------------------------------------------
-- Values
------------------------------------------------------------

namespace ReleasePipeline

/- The value of a locked version; an absent checksum is left out. -/
def LockedPackage.toDatum (p : LockedPackage) : Datum :=
  .record ([("version", .text p.version)] ++
    match p.checksum with
    | some sum => [("checksum", .text sum)]
    | none => [])

/- The value of a list of locked versions. -/
def LockedPackage.listDatum (ps : List LockedPackage) : Datum :=
  .list (ps.map toDatum)

/- The value of a divergence, which names its kind first. -/
def Drift.toDatum : Drift → Datum
  | .added c versions =>
      .record [("kind", .text "added"), ("coordinate", .text c),
        ("versions", LockedPackage.listDatum versions)]
  | .removed c versions =>
      .record [("kind", .text "removed"), ("coordinate", .text c),
        ("versions", LockedPackage.listDatum versions)]
  | .changed c locked resolved =>
      .record [("kind", .text "changed"), ("coordinate", .text c),
        ("locked", LockedPackage.listDatum locked),
        ("resolved", LockedPackage.listDatum resolved)]

end ReleasePipeline
