import ReleasePipeline.Data.Datum
import ReleasePipeline.Text.Hex

/-
  This file defines the writing of JSON documents.  Lists and
  records take one line for each element, indented by two
  blanks for each level; empty ones take no line of their
  own.

  Key definitions include:
    * `Json.escape`
    * `Json.quoted`
    * `Json.layout`
    * `Json.pretty`
-/

------------------------------------------------------------
-- Strings
------------------------------------------------------------

namespace ReleasePipeline

namespace Json

/- A character as it stands inside a string. -/
def escape (c : Char) : List Char :=
  if c = '"' then
    ['\\', '"']
  else if c = '\\' then
    ['\\', '\\']
  else if c = '\x08' then
    ['\\', 'b']
  else if c = '\x0C' then
    ['\\', 'f']
  else if c = '\n' then
    ['\\', 'n']
  else if c = '\x0D' then
    ['\\', 'r']
  else if c = '\t' then
    ['\\', 't']
  else if c.toNat < 0x20 then
    ['\\', 'u', '0', '0',
      Hex.digit (c.toNat / 16), Hex.digit (c.toNat % 16)]
  else
    [c]

/- A text between quotes. -/
def quoted (s : String) : List Char :=
  '"' :: (s.toList.flatMap escape ++ ['"'])

------------------------------------------------------------
-- Values
------------------------------------------------------------

/- A new line at a level of indentation. -/
def newline (level : Nat) : List Char :=
  '\n' :: List.replicate (2 * level) ' '

mutual

/-
  A value whose own lines are at a level of indentation.
  What has no text of its own is written as null.
-/
def layout
    (level : Nat) : Datum → List Char
  | .null => "null".toList
  | .unusable => "null".toList
  | .boolean true => "true".toList
  | .boolean false => "false".toList
  | .integer n => (toString n).toList
  | .text s => quoted s
  | .list [] => ['[', ']']
  | .list (d :: ds) =>
      '[' :: (newline (level + 1) ++ layout (level + 1) d ++
        layoutItems (level + 1) ds ++ newline level ++ [']'])
  | .record [] => ['\x7b', '\x7d']
  | .record ((name, d) :: fields) =>
      '\x7b' :: (newline (level + 1) ++ quoted name ++
        [':', ' '] ++ layout (level + 1) d ++
        layoutFields (level + 1) fields ++
        newline level ++ ['\x7d'])

/- The elements of a list after the first one. -/
def layoutItems
    (level : Nat) : List Datum → List Char
  | [] => []
  | d :: ds =>
      ',' :: (newline level ++ layout level d ++
        layoutItems level ds)

/- The fields of a record after the first one. -/
def layoutFields
    (level : Nat) : List (String × Datum) → List Char
  | [] => []
  | (name, d) :: fields =>
      ',' :: (newline level ++ quoted name ++ [':', ' '] ++
        layout level d ++ layoutFields level fields)

end

/- The text of a document. -/
def pretty (d : Datum) : String :=
  String.ofList (layout 0 d)

end Json

end ReleasePipeline
