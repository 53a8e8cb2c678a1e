import ReleasePipeline.Text.Basic

/-
  This file defines the written form of a regular expression:
  a tree of what stands in its text, before flags have been
  applied.

  Key definitions include:
    * `Regex.Flag`, `Regex.FlagChange`
    * `Regex.Shorthand`, `Regex.NamedClass`
    * `Regex.ClassTree`
    * `Regex.Tree`
    * `Regex.Tree.depth`
    * `Regex.Tree.groupNames`
-/

------------------------------------------------------------
-- Flags and Classes
------------------------------------------------------------

namespace ReleasePipeline

namespace Regex

/- The flags that change how an expression is understood. -/
inductive Flag where
  | ignoreCase
  | multiLine
  | dotAll
  | swapGreed
  | unicode
  | returns
  | ignoreBlanks
deriving DecidableEq, Repr

/- Flags that are turned on or off together. -/
abbrev FlagChange :=
  List (Flag × Bool)

/- The classes that have a letter of their own. -/
inductive Shorthand where
  | digit
  | space
  | word
deriving DecidableEq, Repr

/- The classes that are written by name inside brackets. -/
inductive NamedClass where
  | alnum
  | alpha
  | ascii
  | blank
  | cntrl
  | digit
  | graph
  | lower
  | print
  | punct
  | space
  | upper
  | word
  | xdigit
deriving DecidableEq, Repr

/- How two classes inside brackets can be combined. -/
inductive ClassOperator where
  | intersection
  | difference
  | symmetricDifference
deriving DecidableEq, Repr

/-
  What stands inside brackets.  A literal written as two
  hexadecimal digits can stand for a byte.
-/
inductive ClassTree where
  | nothing
  | literal (c : Char)
  | range (first last : Char)
  | shorthand (kind : Shorthand) (negated : Bool)
  | named (kind : NamedClass) (negated : Bool)
  | union (a b : ClassTree)
  | nested (negated : Bool) (body : ClassTree)
  | combined (operator : ClassOperator) (a b : ClassTree)
deriving DecidableEq, Repr

/- The assertions, as they are written. -/
inductive Assertion where
  | caret
  | dollar
  | textStart
  | textEnd
  | boundary
  | noBoundary
  | wordStart
  | wordEnd
  | halfStart
  | halfEnd
deriving DecidableEq, Repr

------------------------------------------------------------
-- Trees
------------------------------------------------------------

/-
  The written form of an expression.  A group may have a name
  or change flags for its body; `flags` changes them for the
  rest of the group that it stands in.
-/
inductive Tree where
  | empty
  | literal (c : Char) (byte : Bool)
  | dot
  | assertion (kind : Assertion)
  | shorthand (kind : Shorthand) (negated : Bool)
  | brackets (negated : Bool) (body : ClassTree)
  | flags (change : FlagChange)
  | group (name : Option String) (change : FlagChange) (body : Tree)
  | rounds (body : Tree) (least : Nat) (greatest : Option Nat)
  | sequence (items : List Tree)
  | choice (items : List Tree)
deriving Repr, Inhabited

------------------------------------------------------------
-- Observers
------------------------------------------------------------

/- The depth to which classes are nested inside brackets. -/
def ClassTree.depth : ClassTree → Nat
  | .nested _ body => body.depth + 1
  | .combined _ a b => max a.depth b.depth + 1
  | .union a b => max a.depth b.depth
  | _ => 0

mutual

/- The depth to which the parts of an expression are nested. -/
def Tree.depth : Tree → Nat
  | .brackets _ body => body.depth + 1
  | .group _ _ body => body.depth + 1
  | .rounds body _ _ => body.depth + 1
  | .sequence items => depthOfAll items + 1
  | .choice items => depthOfAll items + 1
  | _ => 0

/- The greatest depth of several expressions. -/
def depthOfAll : List Tree → Nat
  | [] => 0
  | t :: ts => max t.depth (depthOfAll ts)

end

mutual

/- The names of the groups of an expression. -/
def Tree.groupNames : Tree → List String
  | .group name _ body => name.toList ++ body.groupNames
  | .rounds body _ _ => body.groupNames
  | .sequence items => groupNamesOfAll items
  | .choice items => groupNamesOfAll items
  | _ => []

/- The names of the groups of several expressions. -/
def groupNamesOfAll : List Tree → List String
  | [] => []
  | t :: ts => t.groupNames ++ groupNamesOfAll ts

end

end Regex

end ReleasePipeline
