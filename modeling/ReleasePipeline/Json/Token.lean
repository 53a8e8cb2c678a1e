import ReleasePipeline.Text.Hex

/-
  This file defines the tokens of JSON and how a byte
  sequence is split into them.  Ill-formed bytes may stand
  inside a string only; such a string, and one with an
  unpaired surrogate, is a token that denotes no text.

  Key definitions include:
    * `Json.Token`
    * `Json.Glyph`, `Json.joinGlyphs`
    * `Json.takeString`
    * `Json.numberToken?`
    * `Json.tokens?`
-/

------------------------------------------------------------
-- Tokens
------------------------------------------------------------

namespace ReleasePipeline

namespace Json

open Utf8 (Piece)

/-
  The tokens of JSON.  A number that is no integer is kept
  without its value; so is a string that denotes no text.
-/
inductive Token where
  | openBrace
  | closeBrace
  | openBracket
  | closeBracket
  | comma
  | colon
  | null
  | boolean (value : Bool)
  | integer (value : Int)
  | decimal
  | text (value : Option String)
deriving DecidableEq, Repr

------------------------------------------------------------
-- Strings
------------------------------------------------------------

/-
  An element of a string: a character, a UTF-16 unit written
  as an escape, or ill-formed bytes.
-/
inductive Glyph where
  | scalar (c : Char)
  | unit (value : Nat)
  | broken
deriving DecidableEq, Repr

/- The units that come first in a surrogate pair. -/
def isHighSurrogate (n : Nat) : Bool :=
  0xD800 ≤ n && n ≤ 0xDBFF

/- The units that come second in a surrogate pair. -/
def isLowSurrogate (n : Nat) : Bool :=
  0xDC00 ≤ n && n ≤ 0xDFFF

/- The character that a surrogate pair stands for. -/
def pairChar (high low : Nat) : Char :=
  Char.ofNat (0x10000 + (high - 0xD800) * 0x400 + (low - 0xDC00))

/-
  The characters of a string.  The first argument is the
  first half of a surrogate pair that awaits its second.
-/
def joinGlyphs : Option Nat → List Glyph → Option (List Char)
  | none, [] => some []
  | some _, [] => none
  | none, .scalar c :: rest => (joinGlyphs none rest).map (c :: ·)
  | none, .broken :: _ => none
  | none, .unit n :: rest =>
      if isHighSurrogate n then
        joinGlyphs (some n) rest
      else if isLowSurrogate n then
        none
      else
        (joinGlyphs none rest).map (Char.ofNat n :: ·)
  | some high, .unit n :: rest =>
      if isLowSurrogate n then
        (joinGlyphs none rest).map (pairChar high n :: ·)
      else
        none
  | some _, _ :: _ => none

/- The unit that four hexadecimal digits stand for. -/
def unitOfDigits? (digits : List Char) : Option Glyph :=
  (Hex.number? digits).map .unit

/- The character that a short escape stands for. -/
def shortEscape? : Char → Option Char
  | '"' => some '"'
  | '\\' => some '\\'
  | '/' => some '/'
  | 'b' => some '\x08'
  | 'f' => some '\x0C'
  | 'n' => some '\n'
  | 'r' => some '\x0D'
  | 't' => some '\t'
  | _ => none

/- Put an element in front of a string that has been read. -/
def consGlyph
    (g : Glyph) :
    Option (List Glyph × List Piece) →
      Option (List Glyph × List Piece) :=
  Option.map fun read => (g :: read.1, read.2)

/-
  Read a string from behind its opening quote: its elements,
  and what follows the closing quote.
-/
def takeString : List Piece → Option (List Glyph × List Piece)
  | [] => none
  | .scalar '"' :: rest => some ([], rest)
  | .scalar '\\' :: .scalar 'u' ::
      .scalar a :: .scalar b :: .scalar c :: .scalar d :: rest =>
      match unitOfDigits? [a, b, c, d] with
      | some g => consGlyph g (takeString rest)
      | none => none
  | .scalar '\\' :: .scalar e :: rest =>
      match shortEscape? e with
      | some c => consGlyph (.scalar c) (takeString rest)
      | none => none
  | .scalar c :: rest =>
      if c = '\\' ∨ c.toNat < 0x20 then
        none
      else
        consGlyph (.scalar c) (takeString rest)
  | _ :: rest => consGlyph .broken (takeString rest)

------------------------------------------------------------
-- Numbers and Words
------------------------------------------------------------

/- The number that decimal digits stand for. -/
def natOfDigits (ds : List Char) : Nat :=
  ds.foldl (fun n d => n * 10 + (d.toNat - 0x30)) 0

/- A whole part has no leading zero unless it is zero. -/
def isWholePart (ds : List Char) : Bool :=
  ds == ['0'] || (ds != [] && ds.head? != some '0')

/- What may follow the digits of an exponent's mark. -/
def isExponent (cs : List Char) : Bool :=
  let ds :=
    match cs with
    | '+' :: ds => ds
    | '-' :: ds => ds
    | ds => ds
  ds != [] && ds.all Char.isDigit

/- What may follow the whole part of a number. -/
def isFraction : List Char → Bool
  | 'e' :: cs => isExponent cs
  | 'E' :: cs => isExponent cs
  | '.' :: cs =>
      cs.takeWhile Char.isDigit != [] &&
        match cs.dropWhile Char.isDigit with
        | [] => true
        | 'e' :: cs => isExponent cs
        | 'E' :: cs => isExponent cs
        | _ => false
  | _ => false

/- The token of a number without its sign. -/
def unsignedToken?
    (negative : Bool)
    (cs : List Char) : Option Token :=
  let whole := cs.takeWhile Char.isDigit
  let rest := cs.dropWhile Char.isDigit
  if !isWholePart whole then
    none
  else if rest = [] then
    if negative then
      if whole = ['0'] then
        some .decimal
      else
        some (.integer (-(natOfDigits whole : Int)))
    else
      some (.integer (natOfDigits whole))
  else if isFraction rest then
    some .decimal
  else
    none

/- The token of a number.  A negative zero is no integer. -/
def numberToken? : List Char → Option Token
  | '-' :: cs => unsignedToken? true cs
  | cs => unsignedToken? false cs

/- The token of a bare word. -/
def wordToken? (cs : List Char) : Option Token :=
  if cs = "null".toList then
    some .null
  else if cs = "true".toList then
    some (.boolean true)
  else if cs = "false".toList then
    some (.boolean false)
  else
    none

------------------------------------------------------------
-- Splitting into Tokens
------------------------------------------------------------

/- The blanks of JSON. -/
def isBlank (c : Char) : Bool :=
  c == ' ' || c == '\t' || c == '\n' || c == '\x0D'

/- The token of a mark. -/
def markToken? : Char → Option Token
  | '\x7b' => some .openBrace
  | '\x7d' => some .closeBrace
  | '[' => some .openBracket
  | ']' => some .closeBracket
  | ',' => some .comma
  | ':' => some .colon
  | _ => none

/- The characters of numbers. -/
def isNumeric (c : Char) : Bool :=
  c.isDigit || c == '-' || c == '+' || c == '.' ||
    c == 'e' || c == 'E'

/- The longest run of characters that satisfy a test. -/
def takeRun
    (p : Char → Bool) : List Piece → List Char × List Piece
  | .scalar c :: rest =>
      if p c then
        let read := takeRun p rest
        (c :: read.1, read.2)
      else
        ([], .scalar c :: rest)
  | rest => ([], rest)

/- Read one token that starts with the given character. -/
def takeToken
    (c : Char)
    (rest : List Piece) : Option (Token × List Piece) :=
  if c = '"' then
    (takeString rest).map fun read =>
      (.text ((joinGlyphs none read.1).map String.ofList), read.2)
  else
    match markToken? c with
    | some mark => some (mark, rest)
    | none =>
        if c.isAlpha then
          let read := takeRun Char.isAlpha rest
          (wordToken? (c :: read.1)).map (·, read.2)
        else
          let read := takeRun isNumeric rest
          (numberToken? (c :: read.1)).map (·, read.2)

/- Read tokens to the end; each step consumes a piece at least. -/
def tokensFrom : Nat → List Piece → Option (List Token)
  | _, [] => some []
  | 0, _ :: _ => none
  | fuel + 1, .scalar c :: rest =>
      if isBlank c then
        tokensFrom fuel rest
      else
        match takeToken c rest with
        | none => none
        | some (token, rest) =>
            (tokensFrom fuel rest).map (token :: ·)
  | _ + 1, _ :: _ => none

/- The tokens of a document. -/
def tokens? (pieces : List Piece) : Option (List Token) :=
  tokensFrom pieces.length pieces

end Json

end ReleasePipeline
