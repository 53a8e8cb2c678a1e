import ReleasePipeline.Text.Hex

/-
  This file defines the SHA-256 digest of FIPS 180-4 and its
  lowercase hexadecimal text.  A message is padded to whole
  blocks of sixty-four bytes; each block is expanded to
  sixty-four words, one for each round of the compression.

  Key definitions include:
    * `Sha256.pad`
    * `Sha256.schedule`
    * `Sha256.compress`
    * `Sha256.digest`
    * `Sha256.hexDigest`
-/

------------------------------------------------------------
-- Constants
------------------------------------------------------------

namespace ReleasePipeline

namespace Sha256

/- The word added in each round. -/
def roundConstants : List UInt32 :=
  [0x428a2f98, 0x71374491, 0xb5c0fbcf, 0xe9b5dba5,
    0x3956c25b, 0x59f111f1, 0x923f82a4, 0xab1c5ed5,
    0xd807aa98, 0x12835b01, 0x243185be, 0x550c7dc3,
    0x72be5d74, 0x80deb1fe, 0x9bdc06a7, 0xc19bf174,
    0xe49b69c1, 0xefbe4786, 0x0fc19dc6, 0x240ca1cc,
    0x2de92c6f, 0x4a7484aa, 0x5cb0a9dc, 0x76f988da,
    0x983e5152, 0xa831c66d, 0xb00327c8, 0xbf597fc7,
    0xc6e00bf3, 0xd5a79147, 0x06ca6351, 0x14292967,
    0x27b70a85, 0x2e1b2138, 0x4d2c6dfc, 0x53380d13,
    0x650a7354, 0x766a0abb, 0x81c2c92e, 0x92722c85,
    0xa2bfe8a1, 0xa81a664b, 0xc24b8b70, 0xc76c51a3,
    0xd192e819, 0xd6990624, 0xf40e3585, 0x106aa070,
    0x19a4c116, 0x1e376c08, 0x2748774c, 0x34b0bcb5,
    0x391c0cb3, 0x4ed8aa4a, 0x5b9cca4f, 0x682e6ff3,
    0x748f82ee, 0x78a5636f, 0x84c87814, 0x8cc70208,
    0x90befffa, 0xa4506ceb, 0xbef9a3f7, 0xc67178f2]

/- The eight words of the chaining state. -/
structure State where
  a : UInt32
  b : UInt32
  c : UInt32
  d : UInt32
  e : UInt32
  f : UInt32
  g : UInt32
  h : UInt32
deriving DecidableEq, Repr

/- The chaining state before the first block. -/
def State.initial : State :=
  ⟨0x6a09e667, 0xbb67ae85, 0x3c6ef372, 0xa54ff53a,
    0x510e527f, 0x9b05688c, 0x1f83d9ab, 0x5be0cd19⟩

------------------------------------------------------------
-- Word Functions
------------------------------------------------------------

/- Rotate a word to the right. -/
def rotate
    (n : UInt32)
    (x : UInt32) : UInt32 :=
  (x >>> n) ||| (x <<< (32 - n))

def smallSigma0 (x : UInt32) : UInt32 :=
  rotate 7 x ^^^ rotate 18 x ^^^ (x >>> 3)

def smallSigma1 (x : UInt32) : UInt32 :=
  rotate 17 x ^^^ rotate 19 x ^^^ (x >>> 10)

def bigSigma0 (x : UInt32) : UInt32 :=
  rotate 2 x ^^^ rotate 13 x ^^^ rotate 22 x

def bigSigma1 (x : UInt32) : UInt32 :=
  rotate 6 x ^^^ rotate 11 x ^^^ rotate 25 x

/- Each bit of `x` chooses between the bits of `y` and `z`. -/
def choose (x y z : UInt32) : UInt32 :=
  (x &&& y) ^^^ ((~~~x) &&& z)

def majority (x y z : UInt32) : UInt32 :=
  (x &&& y) ^^^ (x &&& z) ^^^ (y &&& z)

------------------------------------------------------------
-- Padding and Blocks
------------------------------------------------------------

/- The last `count` bytes of a number, most significant first. -/
def bigEndian : Nat → Nat → Bytes
  | 0, _ => []
  | count + 1, n => UInt8.ofNat (n / Nat.pow 256 count) :: bigEndian count n

/-
  A one bit, zeros up to the last eight bytes of a block, and
  the length of the message in bits.
-/
def pad (message : Bytes) : Bytes :=
  let zeros := (119 - message.length % 64) % 64
  message ++ 0x80 :: List.replicate zeros 0 ++
    bigEndian 8 (8 * message.length)

/- Four bytes make one word, most significant first. -/
def words : Bytes → List UInt32
  | p :: q :: r :: s :: rest =>
      ((p.toUInt32 <<< 24) ||| (q.toUInt32 <<< 16) |||
        (r.toUInt32 <<< 8) ||| s.toUInt32) :: words rest
  | _ => []

/- Cut a list of words into blocks of sixteen. -/
def blocks : Nat → List UInt32 → List (List UInt32)
  | 0, _ => []
  | count + 1, ws => ws.take 16 :: blocks count (ws.drop 16)

------------------------------------------------------------
-- Compression
------------------------------------------------------------

/- The words that follow a window of sixteen. -/
def expand : Nat → List UInt32 → List UInt32
  | 0, _ => []
  | count + 1, window =>
      let word :=
        smallSigma1 (window.getD 14 0) + window.getD 9 0 +
          smallSigma0 (window.getD 1 0) + window.getD 0 0
      word :: expand count (window.tail ++ [word])

/- The sixty-four words of a block, one for each round. -/
def schedule (block : List UInt32) : List UInt32 :=
  block ++ expand 48 block

/- One round, with its constant and its word. -/
def round
    (s : State)
    (input : UInt32 × UInt32) : State :=
  let t1 :=
    s.h + bigSigma1 s.e + choose s.e s.f s.g + input.1 + input.2
  let t2 := bigSigma0 s.a + majority s.a s.b s.c
  ⟨t1 + t2, s.a, s.b, s.c, s.d + t1, s.e, s.f, s.g⟩

/- Work one block into the chaining state. -/
def compress
    (s : State)
    (block : List UInt32) : State :=
  let t := (roundConstants.zip (schedule block)).foldl round s
  ⟨s.a + t.a, s.b + t.b, s.c + t.c, s.d + t.d,
    s.e + t.e, s.f + t.f, s.g + t.g, s.h + t.h⟩

/- The thirty-two bytes of a chaining state. -/
def State.toBytes (s : State) : Bytes :=
  [s.a, s.b, s.c, s.d, s.e, s.f, s.g, s.h].flatMap
    fun w => bigEndian 4 w.toNat

/- The digest of a message. -/
def digest (message : Bytes) : Bytes :=
  let ws := words (pad message)
  ((blocks (ws.length / 16) ws).foldl compress .initial).toBytes

/- The digest of a message as sixty-four digits. -/
def hexDigest (message : Bytes) : String :=
  Hex.ofBytes (digest message)

end Sha256

end ReleasePipeline
