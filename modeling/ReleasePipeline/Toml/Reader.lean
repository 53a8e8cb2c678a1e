import ReleasePipeline.Toml.Quoted
import ReleasePipeline.Toml.Scalar
import ReleasePipeline.Toml.Table

/-
  This file defines the reading of TOML documents.  A document
  is read in two steps: its text is split into statements,
  which are headers and assignments, and the statements are
  carried out in order on an empty root table.

  Key definitions include:
    * `Toml.takeKey`
    * `Toml.takeValue`
    * `Toml.Statement`
    * `Toml.statements?`
    * `Toml.read?`
-/

------------------------------------------------------------
-- Gaps
------------------------------------------------------------

namespace ReleasePipeline

namespace Toml

/- Pass over blanks. -/
def skipBlanks (cs : List Char) : List Char :=
  cs.dropWhile isBlank

/-
  Pass over blanks, newlines and comments.  The first argument
  shows that the text is inside a comment.
-/
def skipGap : Bool → List Char → Option (List Char)
  | _, [] => some []
  | inComment, c :: rest =>
      if c = '\n' then
        skipGap false rest
      else if c = '\x0D' then
        if startsNewline rest then skipGap false rest else none
      else if inComment then
        if isPlain c then skipGap true rest else none
      else if c = '#' then
        skipGap true rest
      else if isBlank c then
        skipGap false rest
      else
        some (c :: rest)

/-
  Pass over what may end a line: blanks, a comment and the
  newline.  The first argument shows that the text is inside
  a comment.
-/
def endLine? : Bool → List Char → Option (List Char)
  | _, [] => some []
  | inComment, c :: rest =>
      if c = '\n' then
        some rest
      else if c = '\x0D' then
        if startsNewline rest then some (rest.drop 1) else none
      else if inComment then
        if isPlain c then endLine? true rest else none
      else if c = '#' then
        endLine? true rest
      else if isBlank c then
        endLine? false rest
      else
        none

------------------------------------------------------------
-- Keys
------------------------------------------------------------

/- The characters of bare keys. -/
def isBareKey (c : Char) : Bool :=
  c.isAlphanum || c == '-' || c == '_'

/- Read one part of a key. -/
def takePart (cs : List Char) : Taken String :=
  match takeLineString? cs with
  | some (name, rest) => some (String.ofList name, rest)
  | none =>
      match cs.takeWhile isBareKey with
      | [] => none
      | name => some (String.ofList name, cs.dropWhile isBareKey)

/- Read the parts of a key, separated by dots. -/
def takeKey : Nat → List Char → Taken (List String)
  | 0, _ => none
  | fuel + 1, cs =>
      match takePart (skipBlanks cs) with
      | none => none
      | some (part, rest) =>
          match skipBlanks rest with
          | '.' :: rest =>
              match takeKey fuel rest with
              | some (parts, rest) => some (part :: parts, rest)
              | none => none
          | rest => some ([part], rest)

------------------------------------------------------------
-- Values
------------------------------------------------------------

/- Whether a character can belong to an unquoted value. -/
def isScalarChar (c : Char) : Bool :=
  !(isBlank c || c == '\n' || c == '\x0D' || c == '#' ||
    c == ',' || c == ']' || c == '\x7d' || c == '[' ||
    c == '\x7b' || c == '=')

/-
  The text of an unquoted value.  A date may be followed by a
  blank and a time.
-/
def takeScalarText (cs : List Char) : List Char × List Char :=
  let word := cs.takeWhile isScalarChar
  let rest := cs.dropWhile isScalarChar
  match takeDate? word, rest with
  | some [], ' ' :: d :: more =>
      if isDigit d then
        let time := (d :: more).takeWhile isScalarChar
        (word ++ ' ' :: time, (d :: more).dropWhile isScalarChar)
      else
        (word, rest)
  | _, _ => (word, rest)

/- The item of an unquoted value. -/
def Scalar.toItem : Scalar → Item
  | .boolean b => .boolean b
  | .integer n => .integer n
  | .float => .float
  | .moment => .moment

/- Read an unquoted value. -/
def takeScalar (cs : List Char) : Taken Item :=
  let (word, rest) := takeScalarText cs
  (scalar? word).map fun s => (s.toItem, rest)

/- The greatest depth of arrays and inline tables. -/
def depthLimit : Nat :=
  80

mutual

/-
  Read a value.  `depth` is the number of arrays and inline
  tables that may still be opened inside one another.
-/
def takeValue : Nat → Nat → List Char → Taken Item
  | 0, _, _ => none
  | fuel + 1, depth, cs =>
      match cs with
      | '[' :: rest =>
          match depth with
          | 0 => none
          | depth + 1 =>
              (takeElements fuel depth rest).map fun read =>
                (.array read.1, read.2)
      | '\x7b' :: rest =>
          match depth with
          | 0 => none
          | depth + 1 =>
              match takeMembers fuel depth rest with
              | none => none
              | some (assignments, rest) =>
                  (assignAll? assignments []).map fun entries =>
                    (.table .inline entries, rest)
      | '"' :: _ =>
          (takeString? cs).map fun read =>
            (.text (String.ofList read.1), read.2)
      | '\'' :: _ =>
          (takeString? cs).map fun read =>
            (.text (String.ofList read.1), read.2)
      | _ => takeScalar cs

/- Read the elements of an array up to its closing bracket. -/
def takeElements : Nat → Nat → List Char → Taken (List Item)
  | 0, _, _ => none
  | fuel + 1, depth, cs =>
      match skipGap false cs with
      | none => none
      | some (']' :: rest) => some ([], rest)
      | some cs =>
          match takeValue fuel depth cs with
          | none => none
          | some (item, rest) =>
              match skipGap false rest with
              | some (']' :: rest) => some ([item], rest)
              | some (',' :: rest) =>
                  (takeElements fuel depth rest).map fun read =>
                    (item :: read.1, read.2)
              | _ => none

/- Read the entries of an inline table up to its closing brace. -/
def takeMembers :
    Nat → Nat → List Char → Taken (List (List String × Item))
  | 0, _, _ => none
  | fuel + 1, depth, cs =>
      match skipGap false cs with
      | none => none
      | some ('\x7d' :: rest) => some ([], rest)
      | some cs =>
          match takeKey cs.length cs with
          | some (key, '=' :: rest) =>
              match takeValue fuel depth (skipBlanks rest) with
              | none => none
              | some (item, rest) =>
                  match skipGap false rest with
                  | some ('\x7d' :: rest) => some ([(key, item)], rest)
                  | some (',' :: rest) =>
                      (takeMembers fuel depth rest).map fun read =>
                        ((key, item) :: read.1, read.2)
                  | _ => none
          | _ => none

end

------------------------------------------------------------
-- Statements
------------------------------------------------------------

/- A line, or more, of a document that changes its tables. -/
inductive Statement where
  | openTable (path : List String)
  | openElement (path : List String)
  | assign (key : List String) (item : Item)
deriving Repr

/- Read a header from behind its first bracket. -/
def takeHeader : List Char → Taken Statement
  | '[' :: cs =>
      match takeKey cs.length cs with
      | some (path, ']' :: ']' :: rest) =>
          some (.openElement path, rest)
      | _ => none
  | cs =>
      match takeKey cs.length cs with
      | some (path, ']' :: rest) => some (.openTable path, rest)
      | _ => none

/- Read an assignment. -/
def takeAssignment (cs : List Char) : Taken Statement :=
  match takeKey cs.length cs with
  | some (key, '=' :: rest) =>
      let value := skipBlanks rest
      (takeValue (2 * value.length + 1) depthLimit value).map
        fun read => (.assign key read.1, read.2)
  | _ => none

/- Read a header or an assignment. -/
def takeStatement : List Char → Taken Statement
  | '[' :: cs => takeHeader cs
  | cs => takeAssignment cs

/- Read statements to the end; each takes a character at least. -/
def statementsFrom : Nat → List Char → Option (List Statement)
  | fuel, cs =>
      match skipGap false cs with
      | none => none
      | some [] => some []
      | some cs =>
          match fuel with
          | 0 => none
          | fuel + 1 =>
              match takeStatement cs with
              | none => none
              | some (statement, rest) =>
                  match endLine? false rest with
                  | none => none
                  | some rest =>
                      (statementsFrom fuel rest).map (statement :: ·)

/- The statements of a document. -/
def statements? (cs : List Char) : Option (List Statement) :=
  statementsFrom cs.length cs

------------------------------------------------------------
-- Documents
------------------------------------------------------------

/-
  Carry out statements.  Assignments go to the table that the
  last header opened.
-/
def perform? :
    List Statement → List String → Entries → Option Entries
  | [], _, root => some root
  | .openTable path :: rest, _, root =>
      match openTable? path root with
      | some root => perform? rest path root
      | none => none
  | .openElement path :: rest, _, root =>
      match openElement? path root with
      | some root => perform? rest path root
      | none => none
  | .assign key item :: rest, path, root =>
      match assignUnder? path key item root with
      | some root => perform? rest path root
      | none => none

/- A mark at the start of a text that shows its encoding. -/
def dropByteOrderMark : List Char → List Char
  | c :: cs => if c.toNat = 0xFEFF then cs else c :: cs
  | [] => []

/- The root table of a document. -/
def read? (text : String) : Option Entries :=
  match statements? (dropByteOrderMark text.toList) with
  | some statements => perform? statements [] []
  | none => none

/- The value of a document. -/
def datum? (text : String) : Option Datum :=
  (read? text).map fun entries => .record (entriesToFields entries)

end Toml

end ReleasePipeline
