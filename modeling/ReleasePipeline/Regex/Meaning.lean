import ReleasePipeline.Regex.Expr
import ReleasePipeline.Regex.Reader

/-
  This file defines the meaning of the written form of a
  regular expression.  A change of flags holds to the end of
  the group that it stands in.  Where case is ignored, a class
  is folded before it is negated.

  Key definitions include:
    * `Regex.Mode`
    * `Regex.ClassTree.meaning`
    * `Regex.meaning?`
    * `Regex.parse?`
-/

------------------------------------------------------------
-- Modes
------------------------------------------------------------

namespace ReleasePipeline

namespace Regex

/- The flags that hold at a part of an expression. -/
structure Mode where
  ignoreCase : Bool
  multiLine : Bool
  dotAll : Bool
  unicode : Bool
  returns : Bool
deriving DecidableEq, Repr

/- The flags at the start of an expression. -/
def Mode.initial : Mode where
  ignoreCase := false
  multiLine := false
  dotAll := false
  unicode := true
  returns := false

/- Turn one flag on or off. -/
def Mode.set
    (m : Mode)
    (change : Flag × Bool) : Mode :=
  match change with
  | (.ignoreCase, on) => { m with ignoreCase := on }
  | (.multiLine, on) => { m with multiLine := on }
  | (.dotAll, on) => { m with dotAll := on }
  | (.unicode, on) => { m with unicode := on }
  | (.returns, on) => { m with returns := on }
  | (.swapGreed, _) => m
  | (.ignoreBlanks, _) => m

/- Carry out a change of flags. -/
def Mode.apply
    (m : Mode)
    (change : FlagChange) : Mode :=
  change.foldl Mode.set m

------------------------------------------------------------
-- Classes
------------------------------------------------------------

/- A class that holds the characters of some ranges. -/
def rangesClass (ranges : List (Char × Char)) : CharClass :=
  ranges.foldr (fun r cls => .union (.range r.1 r.2) cls) .nothing

/- Every character. -/
def anyChar : CharClass :=
  .complement .nothing

/- The ranges of the classes that are written by name. -/
def NamedClass.ranges : NamedClass → List (Char × Char)
  | .alnum => [('0', '9'), ('A', 'Z'), ('a', 'z')]
  | .alpha => [('A', 'Z'), ('a', 'z')]
  | .ascii => [('\x00', '\x7F')]
  | .blank => [('\t', '\t'), (' ', ' ')]
  | .cntrl => [('\x00', '\x1F'), ('\x7F', '\x7F')]
  | .digit => [('0', '9')]
  | .graph => [('!', '~')]
  | .lower => [('a', 'z')]
  | .print => [(' ', '~')]
  | .punct => [('!', '/'), (':', '@'), ('[', '\x60'), ('\x7b', '~')]
  | .space => [('\t', '\x0D'), (' ', ' ')]
  | .upper => [('A', 'Z')]
  | .word => [('0', '9'), ('A', 'Z'), ('_', '_'), ('a', 'z')]
  | .xdigit => [('0', '9'), ('A', 'F'), ('a', 'f')]

/- The classes that have a letter of their own. -/
def Shorthand.meaning
    (m : Mode) : Shorthand → CharClass
  | .digit =>
      if m.unicode then .digit
      else rangesClass NamedClass.digit.ranges
  | .space =>
      if m.unicode then .space
      else rangesClass NamedClass.space.ranges
  | .word =>
      if m.unicode then .word
      else rangesClass NamedClass.word.ranges

/- A class, folded where case is ignored, and then negated. -/
def foldAndNegate
    (m : Mode)
    (negated : Bool)
    (cls : CharClass) : CharClass :=
  let cls := if m.ignoreCase then .folded cls else cls
  if negated then .complement cls else cls

/- Two classes combined by an operator. -/
def ClassOperator.meaning
    (a b : CharClass) : ClassOperator → CharClass
  | .intersection => .inter a b
  | .difference => .inter a (.complement b)
  | .symmetricDifference =>
      .inter (.union a b) (.complement (.inter a b))

/- The class that stands inside brackets. -/
def ClassTree.meaning
    (m : Mode) : ClassTree → CharClass
  | .nothing => .nothing
  | .literal c => .range c c
  | .range first last => .range first last
  | .shorthand kind negated =>
      let cls := kind.meaning m
      if negated then .complement cls else cls
  | .named kind negated =>
      foldAndNegate m negated (rangesClass kind.ranges)
  | .union a b => .union (a.meaning m) (b.meaning m)
  | .nested negated body =>
      foldAndNegate m negated (body.meaning m)
  | .combined operator a b =>
      operator.meaning (foldAndNegate m false (a.meaning m))
        (foldAndNegate m false (b.meaning m))

/-
  Whether a class only holds ASCII characters, as it must
  where Unicode is turned off.
-/
def ClassTree.isAscii : ClassTree → Bool
  | .nothing => true
  | .literal c => c.toNat < 0x80
  | .range _ last => last.toNat < 0x80
  | .shorthand _ negated => !negated
  | .named _ negated => !negated
  | .union a b => a.isAscii && b.isAscii
  | .nested negated body => !negated && body.isAscii
  | .combined _ a b => a.isAscii && b.isAscii

------------------------------------------------------------
-- Expressions
------------------------------------------------------------

/- The anchor that an assertion stands for. -/
def Assertion.meaning
    (m : Mode) : Assertion → Anchor
  | .caret => if m.multiLine then .lineStart m.returns else .textStart
  | .dollar => if m.multiLine then .lineEnd m.returns else .textEnd
  | .textStart => .textStart
  | .textEnd => .textEnd
  | .boundary => .boundary !m.unicode
  | .noBoundary => .noBoundary !m.unicode
  | .wordStart => .wordStart !m.unicode
  | .wordEnd => .wordEnd !m.unicode
  | .halfStart => .halfStart !m.unicode
  | .halfEnd => .halfEnd !m.unicode

/- The characters that a dot stands for. -/
def Mode.dot (m : Mode) : CharClass :=
  if m.dotAll then
    anyChar
  else if m.returns then
    .complement (rangesClass [('\n', '\n'), ('\x0D', '\x0D')])
  else
    .complement (.range '\n' '\n')

mutual

/-
  The meaning of a part, and the flags that hold behind it.
  Where Unicode is turned off, nothing may match a byte that
  is no character.
-/
def meaning? (m : Mode) : Tree → Option (Regex × Mode)
  | .empty => some (.empty, m)
  | .literal c byte =>
      if byte && !m.unicode && 0x80 ≤ c.toNat then
        none
      else
        some (.one (foldAndNegate m false (.range c c)), m)
  | .dot => if m.unicode then some (.one m.dot, m) else none
  | .assertion kind => some (.anchor (kind.meaning m), m)
  | .shorthand kind negated =>
      if negated && !m.unicode then
        none
      else
        let cls := kind.meaning m
        some (.one (if negated then .complement cls else cls), m)
  | .brackets negated body =>
      if m.unicode || (!negated && body.isAscii) then
        some (.one (foldAndNegate m negated (body.meaning m)), m)
      else
        none
  | .flags change => some (.empty, m.apply change)
  | .group _ change body =>
      match meaning? (m.apply change) body with
      | some (r, _) => some (r, m)
      | none => none
  | .rounds body least greatest =>
      match meaning? m body with
      | some (r, m) => some (.rounds r least greatest, m)
      | none => none
  | .sequence items => sequenceMeaning? m items
  | .choice items => choiceMeaning? m items

/- The meaning of parts that follow each other. -/
def sequenceMeaning? (m : Mode) : List Tree → Option (Regex × Mode)
  | [] => some (.empty, m)
  | t :: ts =>
      match meaning? m t with
      | none => none
      | some (r, m) =>
          match sequenceMeaning? m ts with
          | none => none
          | some (s, m) => some (followedBy s r, m)

/- The meaning of alternatives; there is at least one. -/
def choiceMeaning? (m : Mode) : List Tree → Option (Regex × Mode)
  | [] => some (.empty, m)
  | [t] => meaning? m t
  | t :: ts =>
      match meaning? m t with
      | none => none
      | some (r, m) =>
          match choiceMeaning? m ts with
          | none => none
          | some (s, m) => some (.alt r s, m)

end

------------------------------------------------------------
-- Size
------------------------------------------------------------

/- The number of states that a class takes, by its width. -/
def classWeight : CharClass → Nat
  | .nothing => 1
  | .range _ last => if last.toNat < 0x80 then 1 else 10
  | .digit => 100
  | .space => 10
  | .word => 500
  | .union a b => classWeight a + classWeight b
  | .inter a b => classWeight a + classWeight b
  | .complement a => classWeight a + 10
  | .folded a => classWeight a

/- The number of states of an expression with its rounds unrolled. -/
def weight : Regex → Nat
  | .empty => 1
  | .one cls => classWeight cls
  | .anchor _ => 1
  | .seq r s => r.weight + s.weight
  | .alt r s => r.weight + s.weight + 1
  | .rounds r least greatest =>
      r.weight * max 1 (max least (greatest.getD 0)) + 1

/- The greatest number of states of an expression. -/
def weightLimit : Nat :=
  300000

/- The expression that a text stands for. -/
def parse? (text : String) : Option Regex :=
  match (tree? text).bind (meaning? .initial) with
  | some (r, _) => if r.weight ≤ weightLimit then some r else none
  | none => none

end Regex

end ReleasePipeline
