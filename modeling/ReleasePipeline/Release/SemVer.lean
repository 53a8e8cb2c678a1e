import ReleasePipeline.Text.Basic

/-
  This file defines which texts are semantic versions: three
  numbers, then perhaps a pre-release behind a hyphen and
  build metadata behind a plus sign.

  Key definitions include:
    * `SemVer.isNumber`
    * `SemVer.isPreRelease`, `SemVer.isBuild`
    * `SemVer.isVersion`
-/

------------------------------------------------------------
-- Identifiers
------------------------------------------------------------

namespace ReleasePipeline

namespace SemVer

/- Decimal digits without a leading zero. -/
def isNumeral (cs : List Char) : Bool :=
  cs != [] && cs.all Char.isDigit &&
    (cs.length == 1 || cs.head? != some '0')

/- The number that decimal digits stand for. -/
def valueOf (cs : List Char) : Nat :=
  cs.foldl (fun n c => n * 10 + (c.toNat - 0x30)) 0

/- A number that fits into sixty-four bits. -/
def isNumber (cs : List Char) : Bool :=
  isNumeral cs && valueOf cs < Nat.pow 2 64

/- The characters of identifiers. -/
def isIdentifierChar (c : Char) : Bool :=
  c.isAlphanum || c == '-'

/- An identifier; it is not empty. -/
def isIdentifier (cs : List Char) : Bool :=
  cs != [] && cs.all isIdentifierChar

/- Identifiers of which the numbers have no leading zeros. -/
def isPreRelease (cs : List Char) : Bool :=
  (Text.splitAt '.' cs).all fun part =>
    isIdentifier part && (!part.all Char.isDigit || isNumeral part)

/- Identifiers of any form. -/
def isBuild (cs : List Char) : Bool :=
  (Text.splitAt '.' cs).all isIdentifier

------------------------------------------------------------
-- Versions
------------------------------------------------------------

/- Three numbers. -/
def isCore (cs : List Char) : Bool :=
  let parts := Text.splitAt '.' cs
  parts.length == 3 && parts.all isNumber

/-
  What stands behind the first occurrence of a character, if
  there is one, has to satisfy a test.
-/
def tailSatisfies
    (mark : Char)
    (test : List Char → Bool)
    (cs : List Char) : Bool :=
  match cs.dropWhile (· != mark) with
  | [] => true
  | _ :: rest => test rest

/- A semantic version. -/
def isVersion (text : String) : Bool :=
  let front := text.toList.takeWhile (· != '+')
  isCore (front.takeWhile (· != '-')) &&
    tailSatisfies '-' isPreRelease front &&
    tailSatisfies '+' isBuild text.toList

end SemVer

end ReleasePipeline
