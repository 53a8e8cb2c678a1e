import ReleasePipeline.Text.Hex

/-
  This file defines the reading of TOML strings.  There are
  four forms: basic strings with escapes, literal strings
  without, and a multi-line form of each, between three
  quotes, which may hold newlines and up to two quotes before
  the closing ones.

  Key definitions include:
    * `Toml.isPlain`
    * `Toml.escape?`
    * `Toml.takeBasic`, `Toml.takeLiteral`
    * `Toml.takeMultiBasic`, `Toml.takeMultiLiteral`
    * `Toml.takeString?`
-/

------------------------------------------------------------
-- Characters
------------------------------------------------------------

namespace ReleasePipeline

namespace Toml

/- What a reader takes from the front of a text, and the rest. -/
abbrev Taken (α : Type) :=
  Option (α × List Char)

/- Characters that may stand unescaped in strings and comments. -/
def isPlain (c : Char) : Bool :=
  c == '\t' || (0x20 ≤ c.toNat && c.toNat != 0x7F)

/- The blanks of TOML. -/
def isBlank (c : Char) : Bool :=
  c == ' ' || c == '\t'

/- Put a character in front of what was taken. -/
def consTaken
    (c : Char) :
    Taken (List Char) → Taken (List Char) :=
  Option.map fun read => (c :: read.1, read.2)

------------------------------------------------------------
-- Escapes
------------------------------------------------------------

/-
  The character that a number of hexadecimal digits stand
  for, with the number of characters that the escape takes.
-/
def hexEscape?
    (count : Nat)
    (cs : List Char) : Option (Char × Nat) :=
  let digits := cs.take count
  if digits.length = count then
    match Hex.number? digits with
    | some n =>
        if n.isValidChar then
          some (Char.ofNat n, count + 1)
        else
          none
    | none => none
  else
    none

/-
  The character that an escape stands for, from behind its
  backslash, with the number of characters that it takes.
-/
def escape? : List Char → Option (Char × Nat)
  | 'b' :: _ => some ('\x08', 1)
  | 't' :: _ => some ('\t', 1)
  | 'n' :: _ => some ('\n', 1)
  | 'f' :: _ => some ('\x0C', 1)
  | 'r' :: _ => some ('\x0D', 1)
  | 'e' :: _ => some ('\x1B', 1)
  | '"' :: _ => some ('"', 1)
  | '\\' :: _ => some ('\\', 1)
  | 'x' :: cs => hexEscape? 2 cs
  | 'u' :: cs => hexEscape? 4 cs
  | 'U' :: cs => hexEscape? 8 cs
  | _ => none

------------------------------------------------------------
-- Strings on One Line
------------------------------------------------------------

/-
  Read a basic string from behind its opening quote.  The
  first argument counts the characters of an escape that are
  still to be passed over.
-/
def takeBasic : Nat → List Char → Taken (List Char)
  | _, [] => none
  | skip + 1, _ :: rest => takeBasic skip rest
  | 0, c :: rest =>
      if c = '"' then
        some ([], rest)
      else if c = '\\' then
        match escape? rest with
        | some (e, count) => consTaken e (takeBasic count rest)
        | none => none
      else if isPlain c then
        consTaken c (takeBasic 0 rest)
      else
        none

/- Read a literal string from behind its opening quote. -/
def takeLiteral : List Char → Taken (List Char)
  | [] => none
  | c :: rest =>
      if c = '\'' then
        some ([], rest)
      else if isPlain c then
        consTaken c (takeLiteral rest)
      else
        none

------------------------------------------------------------
-- Strings on Several Lines
------------------------------------------------------------

/-
  The closing quotes of a multi-line string, if it ends here:
  up to two quotes that still belong to it, and the rest.
-/
def closing?
    (quote : Char)
    (cs : List Char) : Taken (List Char) :=
  let quotes := cs.takeWhile (· == quote)
  let count := quotes.length
  if count < 3 then
    none
  else
    let own := min (count - 3) 2
    some (List.replicate own quote, cs.drop (own + 3))

/- Whether nothing but blanks stands before the next newline. -/
def endsLine (cs : List Char) : Bool :=
  match cs.dropWhile isBlank with
  | '\n' :: _ => true
  | '\x0D' :: '\n' :: _ => true
  | _ => false

/- Whether a text begins with a newline after a return. -/
def startsNewline (cs : List Char) : Bool :=
  cs.head? == some '\n'

/-
  Read a multi-line basic string from behind its opening
  quotes.  A backslash at the end of a line, shown by the
  second argument, removes all blanks and newlines up to the
  next character.
-/
def takeMultiBasic :
    Nat → Bool → List Char → Taken (List Char)
  | _, _, [] => none
  | skip + 1, trimming, _ :: rest =>
      takeMultiBasic skip trimming rest
  | 0, trimming, c :: rest =>
      if c = '"' then
        match closing? '"' (c :: rest) with
        | some closed => some closed
        | none => consTaken c (takeMultiBasic 0 false rest)
      else if c = '\\' then
        if endsLine rest then
          takeMultiBasic 0 true rest
        else
          match escape? rest with
          | some (e, count) =>
              consTaken e (takeMultiBasic count false rest)
          | none => none
      else if c = '\n' then
        if trimming then
          takeMultiBasic 0 true rest
        else
          consTaken c (takeMultiBasic 0 false rest)
      else if c = '\x0D' then
        if startsNewline rest then
          if trimming then
            takeMultiBasic 0 true rest
          else
            consTaken c (takeMultiBasic 0 false rest)
        else
          none
      else if trimming && isBlank c then
        takeMultiBasic 0 true rest
      else if isPlain c then
        consTaken c (takeMultiBasic 0 false rest)
      else
        none

/-
  Read a multi-line literal string from behind its opening
  quotes.
-/
def takeMultiLiteral : List Char → Taken (List Char)
  | [] => none
  | c :: rest =>
      if c = '\'' then
        match closing? '\'' (c :: rest) with
        | some closed => some closed
        | none => consTaken c (takeMultiLiteral rest)
      else if c = '\x0D' then
        if startsNewline rest then
          consTaken c (takeMultiLiteral rest)
        else
          none
      else if c = '\n' || isPlain c then
        consTaken c (takeMultiLiteral rest)
      else
        none

/- A newline right after the opening quotes does not count. -/
def dropFirstNewline : List Char → List Char
  | '\n' :: rest => rest
  | '\x0D' :: '\n' :: rest => rest
  | cs => cs

/- Read a string that stands on one line. -/
def takeLineString? : List Char → Taken (List Char)
  | '"' :: rest => takeBasic 0 rest
  | '\'' :: rest => takeLiteral rest
  | _ => none

/- Read a string of any form. -/
def takeString? : List Char → Taken (List Char)
  | '"' :: '"' :: '"' :: rest =>
      takeMultiBasic 0 false (dropFirstNewline rest)
  | '\'' :: '\'' :: '\'' :: rest =>
      takeMultiLiteral (dropFirstNewline rest)
  | cs => takeLineString? cs

end Toml

end ReleasePipeline
