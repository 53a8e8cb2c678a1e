import ReleasePipeline.Data.Datum

/-
  This file defines the tables of a TOML document and how
  they are filled.  A table remembers how it came to be,
  because that decides what may still be added to it: a table
  named by a header may not be named again, a table made by a
  dotted key grows by dotted keys only, and an inline table
  is closed.

  Key definitions include:
    * `Toml.Origin`, `Toml.Item`
    * `Toml.assign?`
    * `Toml.openTable?`, `Toml.openElement?`
    * `Toml.assignUnder?`
    * `Toml.Item.toDatum`
-/

------------------------------------------------------------
-- Items
------------------------------------------------------------

namespace ReleasePipeline

namespace Toml

/- How a table came to be. -/
inductive Origin where
  | header
  | path
  | dotted
  | inline
deriving DecidableEq, Repr

/-
  What a key can stand for.  `tables` is a list of tables made
  by repeated headers, unlike an array, which is a value.
-/
inductive Item where
  | text (value : String)
  | integer (value : Int)
  | boolean (value : Bool)
  | float
  | moment
  | array (items : List Item)
  | table (origin : Origin) (entries : List (String × Item))
  | tables (elements : List (List (String × Item)))
deriving Repr, Inhabited

/- The entries of a table. -/
abbrev Entries :=
  List (String × Item)

/- Give a key a new item, in its old place if it has one. -/
def setEntry
    (key : String)
    (item : Item) : Entries → Entries
  | [] => [(key, item)]
  | (k, i) :: rest =>
      if k = key then
        (k, item) :: rest
      else
        (k, i) :: setEntry key item rest

------------------------------------------------------------
-- Dotted Keys
------------------------------------------------------------

/-
  Assign a value to a key with the given parts.  All parts but
  the last lead through tables, which are made where they are
  missing; the last table must be one made by dotted keys.
-/
def assign? : List String → Item → Entries → Option Entries
  | [], _, _ => none
  | key :: rest, item, entries =>
      if rest = [] then
        match entries.lookup key with
        | some _ => none
        | none => some (entries ++ [(key, item)])
      else
        match entries.lookup key with
        | none =>
            (assign? rest item []).map fun inner =>
              entries ++ [(key, .table .dotted inner)]
        | some (.table origin inner) =>
            if origin = .dotted ∨
                (origin = .path ∧ rest.tail ≠ []) then
              (assign? rest item inner).map fun inner =>
                setEntry key (.table origin inner) entries
            else
              none
        | some (.tables elements) =>
            if rest.tail = [] then
              none
            else
              match elements.getLast? with
              | none => none
              | some inner =>
                  (assign? rest item inner).map fun inner =>
                    setEntry key
                      (.tables (elements.dropLast ++ [inner])) entries
        | some _ => none

/- The entries of an inline table with the given assignments. -/
def assignAll? : List (List String × Item) → Entries → Option Entries
  | [], entries => some entries
  | (key, item) :: rest, entries =>
      match assign? key item entries with
      | some entries => assignAll? rest entries
      | none => none

------------------------------------------------------------
-- Headers
------------------------------------------------------------

/-
  Change the table that a header's path leads to.  Missing
  tables on the way are made; a list of tables leads to its
  last element; any other value ends the path.
-/
def changeAt?
    (change : Entries → Option Entries) :
    List String → Entries → Option Entries
  | [], entries => change entries
  | key :: rest, entries =>
      match entries.lookup key with
      | none =>
          (changeAt? change rest []).map fun inner =>
            entries ++ [(key, .table .path inner)]
      | some (.table origin inner) =>
          if origin = .inline then
            none
          else
            (changeAt? change rest inner).map fun inner =>
              setEntry key (.table origin inner) entries
      | some (.tables elements) =>
          match elements.getLast? with
          | none => none
          | some inner =>
              (changeAt? change rest inner).map fun inner =>
                setEntry key
                  (.tables (elements.dropLast ++ [inner])) entries
      | some _ => none

/- Name a table that has not been named before. -/
def nameTable?
    (key : String)
    (entries : Entries) : Option Entries :=
  match entries.lookup key with
  | none => some (entries ++ [(key, .table .header [])])
  | some (.table .path inner) =>
      some (setEntry key (.table .header inner) entries)
  | some _ => none

/- Add an empty table to a list of tables. -/
def nameElement?
    (key : String)
    (entries : Entries) : Option Entries :=
  match entries.lookup key with
  | none => some (entries ++ [(key, .tables [[]])])
  | some (.tables elements) =>
      some (setEntry key (.tables (elements ++ [[]])) entries)
  | some _ => none

/- Open the table that a header names. -/
def openTable?
    (path : List String)
    (root : Entries) : Option Entries :=
  match path.getLast? with
  | none => none
  | some key => changeAt? (nameTable? key) path.dropLast root

/- Open a new element of the list that a header names. -/
def openElement?
    (path : List String)
    (root : Entries) : Option Entries :=
  match path.getLast? with
  | none => none
  | some key => changeAt? (nameElement? key) path.dropLast root

/- Assign a value in the table that a header opened. -/
def assignUnder?
    (path key : List String)
    (item : Item)
    (root : Entries) : Option Entries :=
  changeAt? (assign? key item) path root

------------------------------------------------------------
-- Values
------------------------------------------------------------

mutual

/-
  The value of an item.  A date is read like a table without
  entries; a float cannot be used.
-/
def Item.toDatum : Item → Datum
  | .text s => .text s
  | .integer n => .integer n
  | .boolean b => .boolean b
  | .float => .unusable
  | .moment => .record []
  | .array items => .list (itemsToData items)
  | .table _ entries => .record (entriesToFields entries)
  | .tables elements => .list (elementsToData elements)

/- The values of the elements of an array. -/
def itemsToData : List Item → List Datum
  | [] => []
  | i :: is => i.toDatum :: itemsToData is

/- The values of the entries of a table. -/
def entriesToFields : List (String × Item) → List (String × Datum)
  | [] => []
  | (key, i) :: rest => (key, i.toDatum) :: entriesToFields rest

/- The values of the elements of a list of tables. -/
def elementsToData : List (List (String × Item)) → List Datum
  | [] => []
  | entries :: rest =>
      .record (entriesToFields entries) :: elementsToData rest

end

end Toml

end ReleasePipeline
