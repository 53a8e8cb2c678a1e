import ReleasePipeline.Text.Basic

/-
  This file defines UTF-8: how characters are written as
  bytes, and how bytes are read back.  Reading splits any
  byte sequence into characters and maximal ill-formed
  sequences, so the strict reader, the lenient reader and the
  description of the first fault all come from one pass.

  Key definitions include:
    * `Bytes`
    * `Utf8.encode`
    * `Utf8.Piece`
    * `Utf8.scan`
    * `Utf8.decode`
    * `Utf8.decodeLossy`
    * `Utf8.firstFault`
-/

------------------------------------------------------------
-- Writing
------------------------------------------------------------

namespace ReleasePipeline

/- A byte sequence: the contents of a file or of a pipe. -/
abbrev Bytes :=
  List UInt8

namespace Utf8

/- The one to four bytes that stand for a character. -/
def encodeChar (c : Char) : Bytes :=
  let n := c.toNat
  if n < 0x80 then
    [UInt8.ofNat n]
  else if n < 0x800 then
    [UInt8.ofNat (0xC0 + n / 0x40),
      UInt8.ofNat (0x80 + n % 0x40)]
  else if n < 0x10000 then
    [UInt8.ofNat (0xE0 + n / 0x1000),
      UInt8.ofNat (0x80 + n / 0x40 % 0x40),
      UInt8.ofNat (0x80 + n % 0x40)]
  else
    [UInt8.ofNat (0xF0 + n / 0x40000),
      UInt8.ofNat (0x80 + n / 0x1000 % 0x40),
      UInt8.ofNat (0x80 + n / 0x40 % 0x40),
      UInt8.ofNat (0x80 + n % 0x40)]

/- The bytes of a list of characters. -/
def encodeChars (cs : List Char) : Bytes :=
  cs.flatMap encodeChar

/- The bytes of a text. -/
def encode (s : String) : Bytes :=
  encodeChars s.toList

/- The number of bytes that a list of characters takes. -/
def width (cs : List Char) : Nat :=
  (encodeChars cs).length

------------------------------------------------------------
-- Reading
------------------------------------------------------------

/-
  One step of reading: a character, or an ill-formed
  sequence of the given number of bytes.  A sequence that the
  end of the input cuts off is `truncated`.
-/
inductive Piece where
  | scalar (c : Char)
  | malformed (length : Nat)
  | truncated (length : Nat)
deriving DecidableEq, Repr

/-
  A character that has begun: the bytes read so far, the
  bytes still owed, the value collected and the range that
  the next byte must lie in.
-/
structure Partial where
  taken : Nat
  owed : Nat
  value : Nat
  least : Nat
  greatest : Nat
deriving DecidableEq, Repr

/-
  What a first byte announces: a character of its own, a
  longer character, or nothing.  The ranges leave out
  overlong forms, surrogates and values above U+10FFFF.
-/
def lead (b : Nat) : Piece ⊕ Partial :=
  if b < 0x80 then
    .inl (.scalar (Char.ofNat b))
  else if 0xC2 ≤ b ∧ b ≤ 0xDF then
    .inr ⟨1, 1, b - 0xC0, 0x80, 0xBF⟩
  else if b = 0xE0 then
    .inr ⟨1, 2, 0, 0xA0, 0xBF⟩
  else if b = 0xED then
    .inr ⟨1, 2, 0xD, 0x80, 0x9F⟩
  else if 0xE1 ≤ b ∧ b ≤ 0xEF then
    .inr ⟨1, 2, b - 0xE0, 0x80, 0xBF⟩
  else if b = 0xF0 then
    .inr ⟨1, 3, 0, 0x90, 0xBF⟩
  else if 0xF1 ≤ b ∧ b ≤ 0xF3 then
    .inr ⟨1, 3, b - 0xF0, 0x80, 0xBF⟩
  else if b = 0xF4 then
    .inr ⟨1, 3, 4, 0x80, 0x8F⟩
  else
    .inl (.malformed 1)

/-
  Read bytes one at a time.  A byte that cannot continue the
  character begun ends it as ill-formed and is read again as
  a first byte.
-/
def scanFrom : Option Partial → Bytes → List Piece
  | none, [] => []
  | some p, [] => [.truncated p.taken]
  | none, b :: bs =>
      match lead b.toNat with
      | .inl piece => piece :: scanFrom none bs
      | .inr p => scanFrom (some p) bs
  | some p, b :: bs =>
      let n := b.toNat
      if p.least ≤ n ∧ n ≤ p.greatest then
        let value := p.value * 0x40 + (n - 0x80)
        if p.owed ≤ 1 then
          .scalar (Char.ofNat value) :: scanFrom none bs
        else
          scanFrom
            (some ⟨p.taken + 1, p.owed - 1, value, 0x80, 0xBF⟩) bs
      else
        .malformed p.taken ::
          match lead n with
          | .inl piece => piece :: scanFrom none bs
          | .inr q => scanFrom (some q) bs

/- Split a byte sequence into characters and faults. -/
def scan (bs : Bytes) : List Piece :=
  scanFrom none bs

/- The characters of a reading that has no fault. -/
def scalars? : List Piece → Option (List Char)
  | [] => some []
  | .scalar c :: rest => (scalars? rest).map (c :: ·)
  | _ :: _ => none

/- The text of a well-formed byte sequence. -/
def decode (bs : Bytes) : Option String :=
  (scalars? (scan bs)).map String.ofList

/- The character that stands for an ill-formed sequence. -/
def replacement : Char :=
  Char.ofNat 0xFFFD

/- A character of a lenient reading. -/
def Piece.toChar : Piece → Char
  | .scalar c => c
  | _ => replacement

/- The text in which each fault has become U+FFFD. -/
def decodeLossy (bs : Bytes) : String :=
  String.ofList ((scan bs).map Piece.toChar)

------------------------------------------------------------
-- Faults
------------------------------------------------------------

/-
  Where well-formedness first fails: the number of bytes
  before it, and the length of the ill-formed sequence unless
  the input merely ends too early.
-/
structure Fault where
  index : Nat
  length : Option Nat
deriving DecidableEq, Repr

/- The first fault of a reading that begins at a byte index. -/
def faultFrom : Nat → List Piece → Option Fault
  | _, [] => none
  | i, .scalar c :: rest =>
      faultFrom (i + (encodeChar c).length) rest
  | i, .malformed n :: _ => some ⟨i, some n⟩
  | i, .truncated _ :: _ => some ⟨i, none⟩

/- The first fault of a byte sequence. -/
def firstFault (bs : Bytes) : Option Fault :=
  faultFrom 0 (scan bs)

/- The description of a fault. -/
def Fault.message (f : Fault) : String :=
  match f.length with
  | some n =>
      s!"invalid utf-8 sequence of {n} bytes from index {f.index}"
  | none =>
      s!"incomplete utf-8 byte sequence from index {f.index}"

end Utf8

end ReleasePipeline
