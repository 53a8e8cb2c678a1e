/-
  This file defines the values that a document can hold,
  whatever the format it is written in, and the reading of
  typed values from them.

  A record of known fields may be written as a table of named
  fields or as a list of the fields in order.  Fields that
  are not known are passed over.

  Key definitions include:
    * `Datum`
    * `Datum.Dialect`
    * `Datum.fields?`
    * `Datum.text?`, `Datum.list?`, `Datum.bounded?`
    * `Datum.orElse`, `Datum.optional?`
    * `Datum.ofTexts`, `Datum.ofText?`
-/

------------------------------------------------------------
-- Values
------------------------------------------------------------

namespace ReleasePipeline

/-
  A value of a document.  `unusable` stands for what can only
  be passed over: a number that is no integer, or a text that
  denotes no sequence of characters.
-/
inductive Datum where
  | null
  | boolean (value : Bool)
  | integer (value : Int)
  | text (value : String)
  | list (items : List Datum)
  | record (fields : List (String × Datum))
  | unusable
deriving Repr, Inhabited

namespace Datum

/-
  Where formats differ in reading a record from a list: some
  pass over the elements beyond the known fields, others
  refuse them.
-/
inductive Dialect where
  | lenient
  | strict
deriving DecidableEq, Repr

------------------------------------------------------------
-- Records
------------------------------------------------------------

/- The values given to the fields of a record. -/
abbrev Fields :=
  String → Option Datum

/- Whether a name is given more than once. -/
def repeated
    (fields : List (String × Datum))
    (name : String) : Bool :=
  1 < (fields.filter (·.1 == name)).length

/-
  The values of the known fields.  A known field may not be
  given twice; elements of a list go to the fields in order.
-/
def fields?
    (dialect : Dialect)
    (names : List String) : Datum → Option Fields
  | .record fields =>
      if names.any (repeated fields) then
        none
      else
        some fun name => fields.lookup name
  | .list items =>
      if dialect = .strict ∧ names.length < items.length then
        none
      else
        some fun name => items[names.idxOf name]?
  | _ => none

/- A field that has a default; it is read only when given. -/
def orElse
    {α : Type}
    (read : Datum → Option α)
    (default : α) : Option Datum → Option α
  | none => some default
  | some d => read d

/- A field that must be given. -/
def required
    {α : Type}
    (read : Datum → Option α) : Option Datum → Option α
  | none => none
  | some d => read d

------------------------------------------------------------
-- Values of One Kind
------------------------------------------------------------

/- A text. -/
def text? : Datum → Option String
  | .text s => some s
  | _ => none

/- A truth value. -/
def boolean? : Datum → Option Bool
  | .boolean b => some b
  | _ => none

/- An integer that is not negative and below a bound. -/
def bounded?
    (bound : Nat) : Datum → Option Nat
  | .integer (.ofNat n) => if n < bound then some n else none
  | _ => none

/- A value that may also be null. -/
def optional?
    {α : Type}
    (read : Datum → Option α) : Datum → Option (Option α)
  | .null => some none
  | d => (read d).map some

/- The values that a reader finds in a list, one for each element. -/
def readAll
    {α : Type}
    (read : Datum → Option α) : List Datum → Option (List α)
  | [] => some []
  | d :: ds =>
      match read d, readAll read ds with
      | some a, some as => some (a :: as)
      | _, _ => none

/- A list of values of one kind. -/
def list?
    {α : Type}
    (read : Datum → Option α) : Datum → Option (List α)
  | .list items => readAll read items
  | _ => none

/- A list of texts. -/
def texts? : Datum → Option (List String) :=
  list? text?

/- A text that is empty unless it is given. -/
def textOrEmpty : Option Datum → Option String :=
  orElse text? ""

/- A text that may be given, or be null. -/
def optionalText : Option Datum → Option (Option String) :=
  orElse (optional? text?) none

/- A list of texts as a value. -/
def ofTexts (texts : List String) : Datum :=
  .list (texts.map .text)

/- A text, or null. -/
def ofText? : Option String → Datum
  | some s => .text s
  | none => .null

end Datum

end ReleasePipeline
