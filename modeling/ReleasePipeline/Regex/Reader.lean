import ReleasePipeline.Regex.Tree
import ReleasePipeline.Text.Hex
import ReleasePipeline.Unicode.Classes

/-
  This file defines the reading of regular expressions from
  text.  Each reader takes what it needs from the front of the
  characters and gives back the rest.  Where blanks are
  ignored, they and comments are passed over between the parts
  of an expression.

  Key definitions include:
    * `Regex.takeEscape`
    * `Regex.takeClass`
    * `Regex.takeFlags`
    * `Regex.takeCount`
    * `Regex.takeBody`
    * `Regex.tree?`
-/

------------------------------------------------------------
-- Blanks
------------------------------------------------------------

namespace ReleasePipeline

namespace Regex

/- What a reader takes from the front of a text, and the rest. -/
abbrev Taken (α : Type) :=
  Option (α × List Char)

/-
  Pass over blanks and comments.  The first argument shows
  that the text is inside a comment.
-/
def dropBlanks : Bool → List Char → List Char
  | _, [] => []
  | true, c :: cs => dropBlanks (c != '\n') cs
  | false, c :: cs =>
      if Text.isSpace c then
        dropBlanks false cs
      else if c = '#' then
        dropBlanks true cs
      else
        c :: cs

/- Pass over blanks where they are ignored. -/
def skip
    (ignoring : Bool)
    (cs : List Char) : List Char :=
  if ignoring then dropBlanks false cs else cs

------------------------------------------------------------
-- Escapes
------------------------------------------------------------

/- A part of an expression that is not made of other parts. -/
inductive Atom where
  | literal (c : Char) (byte : Bool)
  | shorthand (kind : Shorthand) (negated : Bool)
  | assertion (kind : Assertion)
deriving DecidableEq, Repr

/- The characters that have a meaning in expressions. -/
def isMeta (c : Char) : Bool :=
  "\\.+*?()|[]\x7b\x7d^$#&-~".toList.contains c

/- The characters that may be escaped to stand for themselves. -/
def mayEscape (c : Char) : Bool :=
  isMeta c ||
    (c.toNat < 0x80 && !c.isAlphanum && c != '<' && c != '>')

/- The character of a number, if it has one. -/
def charOf? (n : Nat) : Option Char :=
  if n.isValidChar then some (Char.ofNat n) else none

/- Exactly so many hexadecimal digits. -/
def takeHexDigits
    (ignoring : Bool) :
    Nat → List Char → Taken (List Char)
  | 0, cs => some ([], cs)
  | count + 1, c :: cs =>
      if (Hex.value? c).isSome then
        match takeHexDigits ignoring count (skip ignoring cs) with
        | some (ds, rest) => some (c :: ds, rest)
        | none => none
      else
        none
  | _ + 1, [] => none

/- Hexadecimal digits up to a closing brace. -/
def takeHexBraces
    (ignoring : Bool) :
    Nat → List Char → Taken (List Char)
  | 0, _ => none
  | fuel + 1, c :: cs =>
      if c = '\x7d' then
        some ([], skip ignoring cs)
      else if (Hex.value? c).isSome then
        match takeHexBraces ignoring fuel (skip ignoring cs) with
        | some (ds, rest) => some (c :: ds, rest)
        | none => none
      else
        none
  | _ + 1, [] => none

/-
  The character of a hexadecimal escape from behind its
  letter, which takes so many digits when it has no braces.
-/
def takeHexEscape
    (ignoring : Bool)
    (count : Nat)
    (cs : List Char) : Taken Atom :=
  match skip ignoring cs with
  | '\x7b' :: cs =>
      match takeHexBraces ignoring (cs.length + 1)
          (skip ignoring cs) with
      | some ([], _) => none
      | some (ds, rest) =>
          ((Hex.number? ds).bind charOf?).map fun c =>
            (.literal c false, rest)
      | none => none
  | cs =>
      match takeHexDigits ignoring count cs with
      | some (ds, rest) =>
          ((Hex.number? ds).bind charOf?).map fun c =>
            (.literal c (count == 2), rest)
      | none => none

/- The special boundaries that are written by name. -/
def boundaryNamed? (name : List Char) : Option Assertion :=
  if name = "start".toList then some .wordStart
  else if name = "end".toList then some .wordEnd
  else if name = "start-half".toList then some .halfStart
  else if name = "end-half".toList then some .halfEnd
  else none

/- The characters of the names of boundaries. -/
def isBoundaryChar (c : Char) : Bool :=
  c.isAlpha || c == '-'

/- The name of a boundary up to its closing brace. -/
def takeBoundaryName
    (ignoring : Bool) :
    Nat → List Char → Taken (List Char)
  | 0, _ => none
  | fuel + 1, c :: cs =>
      if c = '\x7d' then
        some ([], cs)
      else if isBoundaryChar c then
        match takeBoundaryName ignoring fuel (skip ignoring cs) with
        | some (name, rest) => some (c :: name, rest)
        | none => none
      else
        none
  | _ + 1, [] => none

/-
  A word boundary from behind its letter.  Braces that do not
  begin with a letter are left to be read as a count.
-/
def takeBoundary
    (ignoring : Bool) : List Char → Taken Atom
  | '\x7b' :: cs =>
      match skip ignoring cs with
      | [] => none
      | c :: more =>
          if isBoundaryChar c then
            match takeBoundaryName ignoring (cs.length + 1)
                (c :: more) with
            | some (name, rest) =>
                (boundaryNamed? name).map fun kind =>
                  (.assertion kind, rest)
            | none => none
          else
            some (.assertion .boundary, '\x7b' :: cs)
  | cs => some (.assertion .boundary, cs)

/- Read an escape from behind its backslash. -/
def takeEscape
    (ignoring : Bool) : List Char → Taken Atom
  | [] => none
  | c :: cs =>
      match c with
      | 'x' => takeHexEscape ignoring 2 cs
      | 'u' => takeHexEscape ignoring 4 cs
      | 'U' => takeHexEscape ignoring 8 cs
      | 'd' => some (.shorthand .digit false, cs)
      | 'D' => some (.shorthand .digit true, cs)
      | 's' => some (.shorthand .space false, cs)
      | 'S' => some (.shorthand .space true, cs)
      | 'w' => some (.shorthand .word false, cs)
      | 'W' => some (.shorthand .word true, cs)
      | 'a' => some (.literal '\x07' false, cs)
      | 'f' => some (.literal '\x0C' false, cs)
      | 't' => some (.literal '\t' false, cs)
      | 'n' => some (.literal '\n' false, cs)
      | 'r' => some (.literal '\x0D' false, cs)
      | 'v' => some (.literal '\x0B' false, cs)
      | 'A' => some (.assertion .textStart, cs)
      | 'z' => some (.assertion .textEnd, cs)
      | 'b' => takeBoundary ignoring cs
      | 'B' => some (.assertion .noBoundary, cs)
      | '<' => some (.assertion .wordStart, cs)
      | '>' => some (.assertion .wordEnd, cs)
      | _ => if mayEscape c then some (.literal c false, cs) else none

------------------------------------------------------------
-- Classes
------------------------------------------------------------

/- The names of classes. -/
def namedClass? (name : List Char) : Option NamedClass :=
  [("alnum", NamedClass.alnum), ("alpha", .alpha),
    ("ascii", .ascii), ("blank", .blank), ("cntrl", .cntrl),
    ("digit", .digit), ("graph", .graph), ("lower", .lower),
    ("print", .print), ("punct", .punct), ("space", .space),
    ("upper", .upper), ("word", .word),
    ("xdigit", .xdigit)].lookup (String.ofList name)

/- A named class from behind its bracket, if it is one. -/
def takeNamedClass : List Char → Taken ClassTree
  | ':' :: cs =>
      let negated := cs.head? == some '^'
      let named := if negated then cs.drop 1 else cs
      let name := named.takeWhile (· != ':')
      match named.dropWhile (· != ':') with
      | ':' :: ']' :: rest =>
          (namedClass? name).map fun kind =>
            (.named kind negated, rest)
      | _ => none
  | _ => none

/- Read one part of a class that is not a class itself. -/
def takeClassAtom
    (ignoring : Bool) : List Char → Taken Atom
  | '\\' :: cs => takeEscape ignoring cs
  | c :: cs => some (.literal c false, cs)
  | [] => none

/- The class of a part; assertions have none. -/
def Atom.toClass? : Atom → Option ClassTree
  | .literal c _ => some (.literal c)
  | .shorthand kind negated => some (.shorthand kind negated)
  | .assertion _ => none

/- Read a part of a class, or a range between two parts. -/
def takeClassRange
    (ignoring : Bool)
    (cs : List Char) : Taken ClassTree :=
  match takeClassAtom ignoring cs with
  | none => none
  | some (first, rest) =>
      match skip ignoring rest with
      | [] => none
      | '-' :: more =>
          match skip ignoring more with
          | ']' :: _ => first.toClass?.map (·, '-' :: more)
          | '-' :: _ => first.toClass?.map (·, '-' :: more)
          | ends =>
              match first, takeClassAtom ignoring ends with
              | .literal a _, some (.literal b _, rest) =>
                  if a ≤ b then some (.range a b, rest) else none
              | _, _ => none
      | rest => first.toClass?.map (·, rest)

/- The operators between classes. -/
def takeClassOperator : List Char → Taken ClassOperator
  | '&' :: '&' :: cs => some (.intersection, cs)
  | '-' :: '-' :: cs => some (.difference, cs)
  | '~' :: '~' :: cs => some (.symmetricDifference, cs)
  | _ => none

/- A class combined with what stood before an operator. -/
def combine
    (left : Option (ClassTree × ClassOperator))
    (right : ClassTree) : ClassTree :=
  match left with
  | none => right
  | some (a, operator) => .combined operator a right

/- Hyphens at the start of a class stand for themselves. -/
def takeHyphens
    (ignoring : Bool) :
    Nat → ClassTree → List Char → ClassTree × List Char
  | fuel + 1, body, '-' :: cs =>
      takeHyphens ignoring fuel (.union body (.literal '-'))
        (skip ignoring cs)
  | _, body, cs => (body, cs)

/-
  The start of a class from behind its bracket: whether it is
  negated, and the hyphens or the bracket that stand for
  themselves.
-/
def openClass
    (ignoring : Bool)
    (cs : List Char) : Bool × ClassTree × List Char :=
  let cs := skip ignoring cs
  let negated := cs.head? == some '^'
  let cs := if negated then skip ignoring (cs.drop 1) else cs
  match takeHyphens ignoring cs.length .nothing cs with
  | (.nothing, ']' :: cs) =>
      (negated, .literal ']', skip ignoring cs)
  | (body, cs) => (negated, body, cs)

/-
  Read the parts of a class up to its closing bracket.  `left`
  is what stood before an operator, `body` what has been read
  since.
-/
def takeClassBody
    (ignoring : Bool) :
    Nat → Option (ClassTree × ClassOperator) → ClassTree →
      List Char → Taken ClassTree
  | 0, _, _, _ => none
  | fuel + 1, left, body, cs =>
      let cs := skip ignoring cs
      match takeClassOperator cs with
      | some (operator, rest) =>
          takeClassBody ignoring fuel
            (some (combine left body, operator)) .nothing rest
      | none =>
          match cs with
          | [] => none
          | ']' :: rest => some (combine left body, rest)
          | '[' :: rest =>
              match takeNamedClass rest with
              | some (named, rest) =>
                  takeClassBody ignoring fuel left
                    (.union body named) rest
              | none =>
                  let (negated, start, inner) :=
                    openClass ignoring rest
                  match takeClassBody ignoring fuel none start
                      inner with
                  | none => none
                  | some (nested, rest) =>
                      takeClassBody ignoring fuel left
                        (.union body (.nested negated nested)) rest
          | cs =>
              match takeClassRange ignoring cs with
              | none => none
              | some (part, rest) =>
                  takeClassBody ignoring fuel left
                    (.union body part) rest

/- Read a class from behind its opening bracket. -/
def takeClass
    (ignoring : Bool)
    (cs : List Char) : Taken Tree :=
  let (negated, start, rest) := openClass ignoring cs
  match takeClassBody ignoring (2 * cs.length + 1) none start rest with
  | some (body, rest) => some (.brackets negated body, rest)
  | none => none

------------------------------------------------------------
-- Flags and Names
------------------------------------------------------------

/- The letters of flags. -/
def flag? : Char → Option Flag
  | 'i' => some .ignoreCase
  | 'm' => some .multiLine
  | 's' => some .dotAll
  | 'U' => some .swapGreed
  | 'u' => some .unicode
  | 'R' => some .returns
  | 'x' => some .ignoreBlanks
  | _ => none

/-
  Read flags up to the character that ends them.  `on` shows
  that no hyphen has been read yet; a hyphen must be followed
  by a flag, and no flag may be repeated.
-/
def takeFlags :
    Bool → FlagChange → List Char → Taken FlagChange
  | _, _, [] => none
  | on, change, c :: cs =>
      if c = ':' ∨ c = ')' then
        some (change, c :: cs)
      else if c = '-' then
        match on, cs with
        | true, d :: _ =>
            if d = ':' ∨ d = ')' then none
            else takeFlags false change cs
        | _, _ => none
      else
        match flag? c with
        | none => none
        | some flag =>
            if change.any (·.1 == flag) then
              none
            else
              takeFlags on (change ++ [(flag, on)]) cs

/- The characters with which the name of a group may begin. -/
def startsName (c : Char) : Bool :=
  c == '_' || (Unicode.isWord c && !Unicode.isDecimal c)

/- The characters of the names of groups. -/
def continuesName (c : Char) : Bool :=
  c == '_' || c == '.' || c == '[' || c == ']' || Unicode.isWord c

/- Read the name of a group up to its closing angle. -/
def takeName (cs : List Char) : Taken String :=
  let name := cs.takeWhile (· != '>')
  match name, cs.dropWhile (· != '>') with
  | first :: others, _ :: rest =>
      if startsName first && others.all continuesName then
        some (String.ofList name, rest)
      else
        none
  | _, _ => none

/- Whether blanks are ignored after a change of flags. -/
def FlagChange.ignoring
    (change : FlagChange)
    (before : Bool) : Bool :=
  (change.lookup .ignoreBlanks).getD before

------------------------------------------------------------
-- Counts
------------------------------------------------------------

/- The greatest count that can be written. -/
def countLimit : Nat :=
  Nat.pow 2 32

/- Read digits between which blanks may be ignored. -/
def takeCountDigits
    (ignoring : Bool) :
    Nat → Nat → List Char → Nat × List Char
  | fuel + 1, n, c :: cs =>
      if c.isDigit then
        takeCountDigits ignoring fuel
          (n * 10 + (c.toNat - 0x30)) (skip ignoring cs)
      else
        (n, c :: cs)
  | _, n, cs => (n, cs)

/- Read a decimal number; blanks around it do not count. -/
def takeNumber
    (ignoring : Bool)
    (cs : List Char) : Taken Nat :=
  let cs := cs.dropWhile Text.isSpace
  match cs with
  | c :: _ =>
      if c.isDigit then
        let (n, rest) := takeCountDigits ignoring cs.length 0 cs
        if n < countLimit then
          some (n, skip ignoring (rest.dropWhile Text.isSpace))
        else
          none
      else
        none
  | [] => none

/- A question mark that only changes which match is preferred. -/
def dropLazyMark : List Char → List Char
  | '?' :: cs => cs
  | cs => cs

/- Read a count from behind its opening brace. -/
def takeCount
    (ignoring : Bool)
    (cs : List Char) : Taken (Nat × Option Nat) :=
  match takeNumber ignoring (skip ignoring cs) with
  | none => none
  | some (least, rest) =>
      match rest with
      | '\x7d' :: rest =>
          some ((least, some least), dropLazyMark (skip ignoring rest))
      | ',' :: rest =>
          match skip ignoring rest with
          | '\x7d' :: rest =>
              some ((least, none), dropLazyMark (skip ignoring rest))
          | rest =>
              match takeNumber ignoring rest with
              | some (greatest, '\x7d' :: rest) =>
                  if least ≤ greatest then
                    some ((least, some greatest),
                      dropLazyMark (skip ignoring rest))
                  else
                    none
              | _ => none
      | _ => none

------------------------------------------------------------
-- Expressions
------------------------------------------------------------

/- The tree of a part. -/
def Atom.toTree : Atom → Tree
  | .literal c byte => .literal c byte
  | .shorthand kind negated => .shorthand kind negated
  | .assertion kind => .assertion kind

/- The tree of the parts of a sequence, the last one first. -/
def sequenceOf : List Tree → Tree
  | [] => .empty
  | [t] => t
  | ts => .sequence ts.reverse

/- The tree of alternatives, the last one first. -/
def choiceOf : List Tree → Tree
  | [t] => t
  | ts => .choice ts.reverse

/-
  Repeat the last part of a sequence.  There must be one, and
  a change of flags cannot be repeated.
-/
def repeatLast
    (least : Nat)
    (greatest : Option Nat) : List Tree → Option (List Tree)
  | [] => none
  | .flags _ :: _ => none
  | .empty :: _ => none
  | t :: ts => some (.rounds t least greatest :: ts)

/- The start of a group from behind its parenthesis. -/
inductive GroupStart where
  | group (name : Option String) (change : FlagChange)
  | flags (change : FlagChange)
deriving DecidableEq, Repr

/- Read the start of a group; there is no look-around. -/
def takeGroupStart
    (ignoring : Bool)
    (cs : List Char) : Taken GroupStart :=
  match skip ignoring cs with
  | '?' :: '=' :: _ => none
  | '?' :: '!' :: _ => none
  | '?' :: '<' :: '=' :: _ => none
  | '?' :: '<' :: '!' :: _ => none
  | '?' :: 'P' :: '<' :: cs =>
      (takeName cs).map fun read =>
        (.group (some read.1) [], read.2)
  | '?' :: '<' :: cs =>
      (takeName cs).map fun read =>
        (.group (some read.1) [], read.2)
  | '?' :: cs =>
      match takeFlags true [] cs with
      | some ([], ')' :: _) => none
      | some (change, ')' :: rest) => some (.flags change, rest)
      | some (change, _ :: rest) => some (.group none change, rest)
      | _ => none
  | cs => some (.group none [], cs)

/-
  Read an expression up to the end or to the parenthesis that
  closes its group.  `parts` are the parts of the current
  alternative and `done` the earlier alternatives, the last
  ones first.
-/
def takeBody :
    Nat → Bool → List Tree → List Tree → List Char → Taken Tree
  | 0, _, _, _, _ => none
  | fuel + 1, ignoring, parts, done, cs =>
      match skip ignoring cs with
      | [] => some (choiceOf (sequenceOf parts :: done), [])
      | ')' :: rest =>
          some (choiceOf (sequenceOf parts :: done), ')' :: rest)
      | '|' :: rest =>
          takeBody fuel ignoring [] (sequenceOf parts :: done) rest
      | '(' :: rest =>
          match takeGroupStart ignoring rest with
          | none => none
          | some (.flags change, rest) =>
              takeBody fuel (change.ignoring ignoring)
                (.flags change :: parts) done rest
          | some (.group name change, rest) =>
              match takeBody fuel (change.ignoring ignoring)
                  [] [] rest with
              | some (body, ')' :: rest) =>
                  takeBody fuel ignoring
                    (.group name change body :: parts) done rest
              | _ => none
      | '[' :: rest =>
          match takeClass ignoring rest with
          | none => none
          | some (t, rest) =>
              takeBody fuel ignoring (t :: parts) done rest
      | '?' :: rest =>
          match repeatLast 0 (some 1) parts with
          | none => none
          | some parts =>
              takeBody fuel ignoring parts done (dropLazyMark rest)
      | '*' :: rest =>
          match repeatLast 0 none parts with
          | none => none
          | some parts =>
              takeBody fuel ignoring parts done (dropLazyMark rest)
      | '+' :: rest =>
          match repeatLast 1 none parts with
          | none => none
          | some parts =>
              takeBody fuel ignoring parts done (dropLazyMark rest)
      | '\x7b' :: rest =>
          match takeCount ignoring rest with
          | none => none
          | some ((least, greatest), rest) =>
              match repeatLast least greatest parts with
              | none => none
              | some parts => takeBody fuel ignoring parts done rest
      | '\\' :: rest =>
          match takeEscape ignoring rest with
          | none => none
          | some (atom, rest) =>
              takeBody fuel ignoring (atom.toTree :: parts) done rest
      | '.' :: rest =>
          takeBody fuel ignoring (.dot :: parts) done rest
      | '^' :: rest =>
          takeBody fuel ignoring (.assertion .caret :: parts) done rest
      | '$' :: rest =>
          takeBody fuel ignoring (.assertion .dollar :: parts) done rest
      | c :: rest =>
          takeBody fuel ignoring (.literal c false :: parts) done rest

/- The greatest depth to which an expression may be nested. -/
def nestingLimit : Nat :=
  250

/- Whether no name is given twice. -/
def allDistinct : List String → Bool
  | [] => true
  | n :: ns => !ns.contains n && allDistinct ns

/- The written form of an expression. -/
def tree? (text : String) : Option Tree :=
  match takeBody (2 * text.length + 2) false [] [] text.toList with
  | some (t, []) =>
      if t.depth ≤ nestingLimit && allDistinct t.groupNames then
        some t
      else
        none
  | _ => none

end Regex

end ReleasePipeline
