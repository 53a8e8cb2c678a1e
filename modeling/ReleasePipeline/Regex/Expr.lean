import ReleasePipeline.Text.Blank
import ReleasePipeline.Unicode.Classes
import ReleasePipeline.Unicode.Folding

/-
  This file defines regular expressions and when one occurs in
  a text.  An expression is matched by its residues: reading a
  character turns it into the expressions of which one must
  match what follows.  Anchors and word boundaries ask about
  the characters on either side of a position, so whether an
  expression can stop depends on the position as well.

  Key definitions include:
    * `CharClass`, `CharClass.holds`
    * `Anchor`, `Anchor.holds`
    * `Regex`
    * `Regex.halts`, `Regex.step`
    * `Regex.occursIn`
-/

------------------------------------------------------------
-- Classes of Characters
------------------------------------------------------------

namespace ReleasePipeline

/- A class of characters. -/
inductive CharClass where
  | nothing
  | range (first last : Char)
  | digit
  | space
  | word
  | union (a b : CharClass)
  | inter (a b : CharClass)
  | complement (a : CharClass)
  | folded (a : CharClass)
deriving DecidableEq, Repr

/-
  Whether a character belongs to a class.  A folded class
  holds every variant of its members.
-/
def CharClass.holds : CharClass → Char → Bool
  | .nothing, _ => false
  | .range first last, c => first ≤ c && c ≤ last
  | .digit, c => Unicode.isDecimal c
  | .space, c => Text.isSpace c
  | .word, c => Unicode.isWord c
  | .union a b, c => a.holds c || b.holds c
  | .inter a b, c => a.holds c && b.holds c
  | .complement a, c => !a.holds c
  | .folded a, c => (Unicode.variants c).any a.holds

------------------------------------------------------------
-- Positions
------------------------------------------------------------

/- The characters on either side of a position in a text. -/
structure Position where
  before : Option Char
  after : Option Char
deriving DecidableEq, Repr

/-
  What can be asked of a position.  A line ends at a newline,
  or with `returns` also at a carriage return; a word is made
  of Unicode characters, or with `ascii` of ASCII ones.
-/
inductive Anchor where
  | textStart
  | textEnd
  | lineStart (returns : Bool)
  | lineEnd (returns : Bool)
  | boundary (ascii : Bool)
  | noBoundary (ascii : Bool)
  | wordStart (ascii : Bool)
  | wordEnd (ascii : Bool)
  | halfStart (ascii : Bool)
  | halfEnd (ascii : Bool)
deriving DecidableEq, Repr

/- Whether the character on one side belongs to a word. -/
def sideIsWord
    (ascii : Bool)
    (side : Option Char) : Bool :=
  match side with
  | none => false
  | some c => if ascii then Unicode.isAsciiWord c else Unicode.isWord c

/- Whether a line can begin at a position. -/
def Position.startsLine
    (returns : Bool)
    (p : Position) : Bool :=
  match p.before with
  | none => true
  | some '\n' => true
  | some '\x0D' => returns && p.after != some '\n'
  | some _ => false

/- Whether a line can end at a position. -/
def Position.endsLine
    (returns : Bool)
    (p : Position) : Bool :=
  match p.after with
  | none => true
  | some '\x0D' => returns
  | some '\n' => !(returns && p.before == some '\x0D')
  | some _ => false

/- Whether an anchor holds at a position. -/
def Anchor.holds
    (p : Position) : Anchor → Bool
  | .textStart => p.before.isNone
  | .textEnd => p.after.isNone
  | .lineStart returns => p.startsLine returns
  | .lineEnd returns => p.endsLine returns
  | .boundary ascii =>
      sideIsWord ascii p.before != sideIsWord ascii p.after
  | .noBoundary ascii =>
      sideIsWord ascii p.before == sideIsWord ascii p.after
  | .wordStart ascii =>
      !sideIsWord ascii p.before && sideIsWord ascii p.after
  | .wordEnd ascii =>
      sideIsWord ascii p.before && !sideIsWord ascii p.after
  | .halfStart ascii => !sideIsWord ascii p.before
  | .halfEnd ascii => !sideIsWord ascii p.after

------------------------------------------------------------
-- Expressions
------------------------------------------------------------

/-
  A regular expression.  A repetition has a least number of
  rounds and perhaps a greatest one.
-/
inductive Regex where
  | empty
  | one (cls : CharClass)
  | anchor (a : Anchor)
  | seq (r s : Regex)
  | alt (r s : Regex)
  | rounds (r : Regex) (least : Nat) (greatest : Option Nat)
deriving DecidableEq, Repr

namespace Regex

/- Whether an expression can match nothing at a position. -/
def halts
    (p : Position) : Regex → Bool
  | .empty => true
  | .one _ => false
  | .anchor a => a.holds p
  | .seq r s => r.halts p && s.halts p
  | .alt r s => r.halts p || s.halts p
  | .rounds r least _ => least == 0 || r.halts p

/- A residue followed by an expression. -/
def followedBy (s r : Regex) : Regex :=
  if r = .empty then s else .seq r s

/-
  The residues of an expression after the character behind a
  position.  A round that can match nothing makes up for all
  rounds that are still owed.
-/
def step
    (p : Position)
    (c : Char) : Regex → List Regex
  | .empty => []
  | .one cls => if cls.holds c then [.empty] else []
  | .anchor _ => []
  | .seq r s =>
      (r.step p c).map (followedBy s) ++
        if r.halts p then s.step p c else []
  | .alt r s => r.step p c ++ s.step p c
  | .rounds r least greatest =>
      if greatest = some 0 then
        []
      else
        let owed := if r.halts p then 0 else least - 1
        (r.step p c).map
          (followedBy (.rounds r owed (greatest.map (· - 1))))

------------------------------------------------------------
-- Searching
------------------------------------------------------------

/-
  Whether one of some expressions matches at the front of a
  text, or the sought one anywhere in it.
-/
def search
    (sought : Regex) :
    Option Char → List Regex → List Char → Bool
  | before, current, [] =>
      (sought :: current).any (·.halts ⟨before, none⟩)
  | before, current, c :: cs =>
      let p : Position := ⟨before, some c⟩
      let all := sought :: current
      all.any (·.halts p) ||
        search sought (some c)
          ((all.flatMap (·.step p c)).eraseDups) cs

/- Whether an expression matches somewhere in a text. -/
def occursIn
    (r : Regex)
    (text : String) : Bool :=
  search r none [] text.toList

end Regex

end ReleasePipeline
