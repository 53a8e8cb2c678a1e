import ReleasePipeline.Text.Basic

/-
  This file defines glob patterns.  A question mark stands
  for one character, an asterisk for any run of characters,
  and brackets for a set of characters or for its complement.
  Two asterisks that make up a whole component stand for any
  number of components.

  A run of characters may hold slashes and begin with a dot:
  it is the walk over a tree that keeps components apart.

  Key definitions include:
    * `Glob.Token`, `Glob.Pattern`
    * `Glob.PatternFault`
    * `Glob.parse`
    * `Glob.accepts`
    * `Glob.escape`
-/

------------------------------------------------------------
-- Patterns
------------------------------------------------------------

namespace ReleasePipeline

namespace Glob

/- The members of a set of characters. -/
inductive Member where
  | single (c : Char)
  | range (first last : Char)
deriving DecidableEq, Repr

/-
  The parts of a pattern: a character, any character, any run
  of characters, any number of components, a set, and the
  complement of a set.
-/
inductive Token where
  | literal (c : Char)
  | anyChar
  | anyRun
  | anyComponents
  | within (members : List Member)
  | except (members : List Member)
deriving DecidableEq, Repr

/- A pattern is a list of parts. -/
abbrev Pattern :=
  List Token

/- What can be wrong with a pattern. -/
inductive Problem where
  | asterisks
  | component
  | brackets
deriving DecidableEq, Repr

/- A problem, and the number of characters before it. -/
structure PatternFault where
  position : Nat
  problem : Problem
deriving DecidableEq, Repr

/- The text of a problem. -/
def Problem.message : Problem → String
  | .asterisks =>
      "wildcards are either regular `*` or recursive `**`"
  | .component =>
      "recursive wildcards must form a single path component"
  | .brackets => "invalid range pattern"

/- The text of a fault. -/
def PatternFault.message (f : PatternFault) : String :=
  s!"Pattern syntax error near position {f.position}: {f.problem.message}"

------------------------------------------------------------
-- Reading
------------------------------------------------------------

/- The members of a set; a hyphen between two makes a range. -/
def members : List Char → List Member
  | a :: '-' :: b :: rest => .range a b :: members rest
  | c :: rest => .single c :: members rest
  | [] => []

/-
  Read a set from behind its opening bracket.  The first
  character belongs to the set even if it is a bracket.
-/
def takeSet? : List Char → Option (Token × List Char)
  | '!' :: first :: rest =>
      match rest.dropWhile (· != ']') with
      | [] => none
      | _ :: after =>
          some (.except
            (members (first :: rest.takeWhile (· != ']'))), after)
  | '!' :: [] => none
  | first :: rest =>
      match rest.dropWhile (· != ']') with
      | [] => none
      | _ :: after =>
          some (.within
            (members (first :: rest.takeWhile (· != ']'))), after)
  | [] => none

/- Put a part in front of a pattern that has been read. -/
def consToken
    (t : Token) :
    Except PatternFault Pattern → Except PatternFault Pattern
  | .ok ts => .ok (t :: ts)
  | .error f => .error f

/-
  Read a pattern.  `position` counts the characters before
  it, and `fresh` shows that it begins a component.  The fuel
  is the number of characters.
-/
def parseFrom :
    Nat → Nat → Bool → List Char → Except PatternFault Pattern
  | _, _, _, [] => .ok []
  | 0, _, _, _ :: _ => .ok []
  | fuel + 1, position, fresh, c :: rest =>
      if c = '?' then
        consToken .anyChar (parseFrom fuel (position + 1) false rest)
      else if c = '*' then
        let after := rest.dropWhile (· == '*')
        match (rest.takeWhile (· == '*')).length with
        | 0 =>
            consToken .anyRun
              (parseFrom fuel (position + 1) false after)
        | 1 =>
            if fresh then
              match after with
              | [] => .ok [.anyComponents]
              | d :: after =>
                  if d = '/' then
                    consToken .anyComponents
                      (parseFrom fuel (position + 3) true after)
                  else
                    .error ⟨position + 2, .component⟩
            else
              .error ⟨position - 1, .component⟩
        | _ + 2 => .error ⟨position + 2, .asterisks⟩
      else if c = '[' then
        match takeSet? rest with
        | none => .error ⟨position, .brackets⟩
        | some (set, after) =>
            consToken set
              (parseFrom fuel
                (position + 1 + (rest.length - after.length))
                false after)
      else
        consToken (.literal c)
          (parseFrom fuel (position + 1) (c == '/') rest)

/- Read a pattern. -/
def parse (text : String) : Except PatternFault Pattern :=
  parseFrom text.toList.length 0 true text.toList

/- The pattern that stands for exactly the given text. -/
def escape (text : String) : String :=
  String.ofList (text.toList.flatMap fun c =>
    if c = '?' ∨ c = '*' ∨ c = '[' ∨ c = ']' then
      ['[', c, ']']
    else
      [c])

------------------------------------------------------------
-- Matching
------------------------------------------------------------

/- Whether a character is among the members of a set. -/
def Member.holds
    (c : Char) : Member → Bool
  | .single d => c == d
  | .range first last => first ≤ c && c ≤ last

/- Whether a part that stands for one character accepts it. -/
def Token.acceptsChar
    (c : Char) : Token → Bool
  | .literal d => c == d
  | .anyChar => true
  | .within set => set.any (Member.holds c)
  | .except set => !set.any (Member.holds c)
  | .anyRun => false
  | .anyComponents => false

/- A text and every remainder of it, the longest first. -/
def remainders : List Char → List (List Char)
  | [] => [[]]
  | c :: cs => (c :: cs) :: remainders cs

/-
  Where the components after any number of components can
  begin: here, behind every slash, and at the end.
-/
def boundaries (cs : List Char) : List (List Char) :=
  cs :: (remaindersAfterSlash cs ++ [[]])
where
  remaindersAfterSlash : List Char → List (List Char)
    | [] => []
    | c :: cs =>
        if c = '/' then
          cs :: remaindersAfterSlash cs
        else
          remaindersAfterSlash cs

/- Whether a pattern matches the whole of a text. -/
def acceptsChars : Pattern → List Char → Bool
  | [], cs => cs == []
  | .anyRun :: ts, cs => (remainders cs).any (acceptsChars ts)
  | .anyComponents :: ts, cs => (boundaries cs).any (acceptsChars ts)
  | _ :: _, [] => false
  | t :: ts, c :: cs => t.acceptsChar c && acceptsChars ts cs

/- Whether a pattern matches a text. -/
def accepts
    (p : Pattern)
    (text : String) : Bool :=
  acceptsChars p text.toList

/- The characters of a pattern that has no other parts. -/
def literalChars? : Pattern → Option (List Char)
  | [] => some []
  | .literal c :: ts => (literalChars? ts).map (c :: ·)
  | _ :: _ => none

/- The only text that a pattern without wildcards matches. -/
def literal? (p : Pattern) : Option String :=
  (literalChars? p).map String.ofList

/- Whether a pattern stands for any number of components. -/
def isRecursive (p : Pattern) : Bool :=
  p.contains .anyComponents

end Glob

end ReleasePipeline
