import ReleasePipeline.Text.Basic
import ReleasePipeline.Text.Hex

/-
  This file defines the unquoted values of TOML: truth
  values, integers, floats, dates and times.  Floats and
  times are recognised but their values are not kept.

  Key definitions include:
    * `Toml.Scalar`
    * `Toml.integer?`
    * `Toml.isFloat`
    * `Toml.isMoment`
    * `Toml.scalar?`
-/

------------------------------------------------------------
-- Values
------------------------------------------------------------

namespace ReleasePipeline

namespace Toml

/- An unquoted value. -/
inductive Scalar where
  | boolean (value : Bool)
  | integer (value : Int)
  | float
  | moment
deriving DecidableEq, Repr

/- The decimal digits. -/
def isDigit (c : Char) : Bool :=
  '0' ≤ c && c ≤ '9'

/-
  The digits of a number.  An underscore may stand between
  two digits and does not count.
-/
def digits?
    (p : Char → Bool)
    (cs : List Char) : Option (List Char) :=
  let groups := Text.splitAt '_' cs
  if groups.all fun g => g != [] && g.all p then
    some groups.flatten
  else
    none

/- The number that digits stand for in a base up to sixteen. -/
def valueOfDigits
    (base : Nat)
    (ds : List Char) : Nat :=
  ds.foldl (fun n d => n * base + (Hex.value? d).getD 0) 0

/- The sign of a number and what follows it. -/
def splitSign : List Char → Bool × List Char
  | '+' :: cs => (false, cs)
  | '-' :: cs => (true, cs)
  | cs => (false, cs)

------------------------------------------------------------
-- Integers
------------------------------------------------------------

/- Integers are signed words of sixty-four bits. -/
def checkedInteger
    (negative : Bool)
    (n : Nat) : Option Int :=
  if negative then
    if n ≤ Nat.pow 2 63 then some (-(n : Int)) else none
  else
    if n < Nat.pow 2 63 then some n else none

/- The digits of a whole number; only zero starts with a zero. -/
def wholeDigits? (cs : List Char) : Option (List Char) :=
  match digits? isDigit cs with
  | none => none
  | some ds =>
      if cs.length = 1 ∨ cs.head? ≠ some '0' then
        some ds
      else
        none

/- A decimal integer. -/
def decimal? (cs : List Char) : Option Int :=
  let signed := splitSign cs
  match wholeDigits? signed.2 with
  | some ds => checkedInteger signed.1 (valueOfDigits 10 ds)
  | none => none

/- An unsigned integer in another base. -/
def based?
    (base : Nat)
    (cs : List Char) : Option Int :=
  let isOwn (c : Char) : Bool :=
    match Hex.value? c with
    | some n => n < base
    | none => false
  match digits? isOwn cs with
  | some ds => checkedInteger false (valueOfDigits base ds)
  | none => none

/- An integer. -/
def integer? : List Char → Option Int
  | '0' :: 'x' :: cs => based? 16 cs
  | '0' :: 'o' :: cs => based? 8 cs
  | '0' :: 'b' :: cs => based? 2 cs
  | cs => decimal? cs

------------------------------------------------------------
-- Floats
------------------------------------------------------------

/-
  Whether digits times a power of ten lie below half a step
  beyond the greatest finite number of double precision.
-/
def isFinite
    (mantissa : List Char)
    (exponent : Int) : Bool :=
  let ds := mantissa.dropWhile (· == '0')
  let magnitude : Int := ds.length + exponent
  if ds = [] ∨ magnitude < 300 then
    true
  else if 310 < magnitude then
    false
  else
    let n := valueOfDigits 10 ds
    let bound := Nat.pow 2 1024 - Nat.pow 2 970
    match exponent with
    | .ofNat e => n * Nat.pow 10 e < bound
    | .negSucc e => n < bound * Nat.pow 10 (e + 1)

/- The exponent of a float from behind its mark. -/
def exponent? (cs : List Char) : Option Int :=
  let signed := splitSign cs
  match digits? isDigit signed.2 with
  | some ds =>
      let n := valueOfDigits 10 ds
      some (if signed.1 then -(n : Int) else n)
  | none => none

/- The mark that begins an exponent. -/
def isExponentMark (c : Char) : Bool :=
  c == 'e' || c == 'E'

/- A finite float without its sign, or none if it is no float. -/
def isPlainFloat (cs : List Char) : Bool :=
  let mantissa := cs.takeWhile (!isExponentMark ·)
  let power := cs.dropWhile (!isExponentMark ·)
  let exponent? :=
    match power with
    | [] => some 0
    | _ :: digits => exponent? digits
  match exponent?, Text.splitAt '.' mantissa with
  | some e, [whole] =>
      match wholeDigits? whole with
      | some ds => power != [] && isFinite ds e
      | none => false
  | some e, [whole, fraction] =>
      match wholeDigits? whole, digits? isDigit fraction with
      | some ds, some fs => isFinite (ds ++ fs) (e - fs.length)
      | _, _ => false
  | _, _ => false

/- A float. -/
def isFloat (cs : List Char) : Bool :=
  let unsigned := (splitSign cs).2
  unsigned == "inf".toList || unsigned == "nan".toList ||
    isPlainFloat unsigned

------------------------------------------------------------
-- Dates and Times
------------------------------------------------------------

/- A number of exactly so many digits at the front of a text. -/
def takeDigits?
    (count : Nat)
    (cs : List Char) : Option (Nat × List Char) :=
  let ds := cs.take count
  if ds.length = count ∧ ds.all isDigit then
    some (valueOfDigits 10 ds, cs.drop count)
  else
    none

/- The number of days in a month. -/
def daysIn
    (year month : Nat) : Nat :=
  if month = 2 then
    if year % 4 = 0 ∧ (year % 100 ≠ 0 ∨ year % 400 = 0) then
      29
    else
      28
  else if month = 4 ∨ month = 6 ∨ month = 9 ∨ month = 11 then
    30
  else
    31

/- Read a date. -/
def takeDate? (cs : List Char) : Option (List Char) := do
  let (year, cs) ← takeDigits? 4 cs
  let '-' :: cs := cs | none
  let (month, cs) ← takeDigits? 2 cs
  let '-' :: cs := cs | none
  let (day, cs) ← takeDigits? 2 cs
  if 1 ≤ month ∧ month ≤ 12 ∧ 1 ≤ day ∧ day ≤ daysIn year month then
    some cs
  else
    none

/- Read the fraction of a second, if there is one. -/
def takeFraction? : List Char → Option (List Char)
  | '.' :: cs =>
      if cs.takeWhile isDigit = [] then
        none
      else
        some (cs.dropWhile isDigit)
  | cs => some cs

/- Read a time of day; the seconds may be left out. -/
def takeTime? (cs : List Char) : Option (List Char) := do
  let (hour, cs) ← takeDigits? 2 cs
  let ':' :: cs := cs | none
  let (minute, cs) ← takeDigits? 2 cs
  if 23 < hour ∨ 59 < minute then
    none
  else
    match cs with
    | ':' :: cs => do
        let (second, cs) ← takeDigits? 2 cs
        if 60 < second then none else takeFraction? cs
    | cs => some cs

/- Whether a text is an offset from universal time. -/
def isOffset : List Char → Bool
  | ['Z'] => true
  | ['z'] => true
  | sign :: cs =>
      (sign == '+' || sign == '-') &&
        match takeDigits? 2 cs with
        | some (hour, ':' :: cs) =>
            match takeDigits? 2 cs with
            | some (minute, []) => hour ≤ 23 && minute ≤ 59
            | _ => false
        | _ => false
  | [] => false

/- The marks between a date and a time. -/
def isTimeMark (c : Char) : Bool :=
  c == 'T' || c == 't' || c == ' '

/- A date, a time, or both, then perhaps with an offset. -/
def isMoment (cs : List Char) : Bool :=
  match takeDate? cs with
  | some [] => true
  | some (mark :: cs) =>
      isTimeMark mark &&
        match takeTime? cs with
        | some [] => true
        | some offset => isOffset offset
        | none => false
  | none => takeTime? cs == some []

------------------------------------------------------------
-- All Forms
------------------------------------------------------------

/- The value of an unquoted text. -/
def scalar? (cs : List Char) : Option Scalar :=
  if cs = "true".toList then
    some (.boolean true)
  else if cs = "false".toList then
    some (.boolean false)
  else
    match integer? cs with
    | some n => some (.integer n)
    | none =>
        if isFloat cs then
          some .float
        else if isMoment cs then
          some .moment
        else
          none

end Toml

end ReleasePipeline
