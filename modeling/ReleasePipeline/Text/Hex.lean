import ReleasePipeline.Text.Utf8

/-
  This file defines hexadecimal digits: lowercase ones are
  written, both cases are read.

  Key definitions include:
    * `Hex.digit`
    * `Hex.value?`
    * `Hex.number?`
    * `Hex.ofBytes`
-/

------------------------------------------------------------
-- Digits
------------------------------------------------------------

namespace ReleasePipeline

namespace Hex

/- The lowercase digit of a value below sixteen. -/
def digit (n : Nat) : Char :=
  if n < 10 then
    Char.ofNat (0x30 + n)
  else
    Char.ofNat (0x57 + n)

/- The value of a digit. -/
def value? (c : Char) : Option Nat :=
  let n := c.toNat
  if 0x30 ≤ n ∧ n ≤ 0x39 then
    some (n - 0x30)
  else if 0x41 ≤ n ∧ n ≤ 0x46 then
    some (n - 0x37)
  else if 0x61 ≤ n ∧ n ≤ 0x66 then
    some (n - 0x57)
  else
    none

/- Reading the digit of a value gives the value back. -/
theorem value?_digit :
    ∀ n, n < 16 → value? (digit n) = some n := by
  decide

/- The number that digits stand for, continued from `acc`. -/
def numberFrom? (acc : Nat) : List Char → Option Nat
  | [] => some acc
  | c :: cs =>
      match value? c with
      | some n => numberFrom? (acc * 16 + n) cs
      | none => none

/- The number that digits stand for. -/
def number? (cs : List Char) : Option Nat :=
  numberFrom? 0 cs

/- Two digits for each byte, the high half first. -/
def ofBytes (bs : Bytes) : String :=
  String.ofList
    (bs.flatMap fun b =>
      [digit (b.toNat / 16), digit (b.toNat % 16)])

end Hex

end ReleasePipeline
