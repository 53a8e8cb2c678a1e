import ReleasePipeline.Text.Hex

/-
  This file defines how a text is written as a TOML string.
  The plainest form that can hold the text is taken: a basic
  or a literal string on one line, then their multi-line
  forms, all without escapes, and at last a form with escapes.

  Key definitions include:
    * `Toml.Form`
    * `Toml.formOf`
    * `Toml.escapeChars`
    * `Toml.written`
-/

------------------------------------------------------------
-- Forms
------------------------------------------------------------

namespace ReleasePipeline

namespace Toml

/- The forms of strings, in the order of preference. -/
inductive Form where
  | basic
  | literal
  | multiBasic
  | multiLiteral
  | escapedBasic
  | escapedMulti
deriving DecidableEq, Repr

/- Control characters; a newline is treated on its own. -/
def isControl (c : Char) : Bool :=
  (c.toNat < 0x20 && c != '\n') || c.toNat == 0x7F

/- Whether three of a character stand in a row. -/
def hasThree
    (quote : Char) : List Char → Bool
  | a :: b :: c :: cs =>
      (a == quote && b == quote && c == quote) ||
        hasThree quote (b :: c :: cs)
  | _ => false

/- The form that a text is written in. -/
def formOf (cs : List Char) : Form :=
  let controls := cs.any isControl
  let newline := cs.contains '\n'
  let backslash := cs.contains '\\'
  if !controls && !newline && !backslash && !cs.contains '"' then
    .basic
  else if !controls && !newline && !cs.contains '\'' then
    .literal
  else if !controls && !backslash && !hasThree '"' cs then
    .multiBasic
  else if !controls && !hasThree '\'' cs then
    .multiLiteral
  else if newline then
    .escapedMulti
  else
    .escapedBasic

------------------------------------------------------------
-- Escapes
------------------------------------------------------------

/- An uppercase hexadecimal digit. -/
def upperDigit (n : Nat) : Char :=
  if n < 10 then
    Char.ofNat (0x30 + n)
  else
    Char.ofNat (0x37 + n)

/- The escape of a control character or a backslash. -/
def escapeOf (c : Char) : List Char :=
  if c = '\x08' then ['\\', 'b']
  else if c = '\t' then ['\\', 't']
  else if c = '\x0C' then ['\\', 'f']
  else if c = '\x0D' then ['\\', 'r']
  else if c = '\\' then ['\\', '\\']
  else
    ['\\', 'u', '0', '0',
      upperDigit (c.toNat / 16), upperDigit (c.toNat % 16)]

/-
  A text with escapes.  `allowed` quotes may stand in a row
  unescaped; `run` counts those that have just been written.
-/
def escapeChars
    (allowed : Nat) : Nat → List Char → List Char
  | _, [] => []
  | run, c :: cs =>
      if c = '"' then
        if run < allowed then
          c :: escapeChars allowed (run + 1) cs
        else
          '\\' :: c :: escapeChars allowed 0 cs
      else if isControl c || c = '\\' then
        escapeOf c ++ escapeChars allowed 0 cs
      else
        c :: escapeChars allowed 0 cs

------------------------------------------------------------
-- Strings
------------------------------------------------------------

/- Quotes that open or close a multi-line string. -/
def tripled (quote : Char) : List Char :=
  [quote, quote, quote]

/- A text of several lines begins on a line of its own. -/
def leadingNewline (cs : List Char) : List Char :=
  if cs.contains '\n' then ['\n'] else []

/- A text in a given form. -/
def writtenAs
    (form : Form)
    (cs : List Char) : List Char :=
  match form with
  | .basic => '"' :: (cs ++ ['"'])
  | .literal => '\'' :: (cs ++ ['\''])
  | .multiBasic =>
      tripled '"' ++ leadingNewline cs ++ cs ++ tripled '"'
  | .multiLiteral =>
      tripled '\'' ++ leadingNewline cs ++ cs ++ tripled '\''
  | .escapedBasic => '"' :: (escapeChars 0 0 cs ++ ['"'])
  | .escapedMulti =>
      tripled '"' ++ leadingNewline cs ++ escapeChars 2 0 cs ++
        tripled '"'

/- A text as a string. -/
def written (s : String) : String :=
  String.ofList (writtenAs (formOf s.toList) s.toList)

end Toml

end ReleasePipeline
