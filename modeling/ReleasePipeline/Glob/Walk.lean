import ReleasePipeline.Files.Tree
import ReleasePipeline.Glob.Pattern

/-
  This file defines the walk that finds the paths which a
  pattern matches in a tree.  The pattern is cut at its
  slashes; a component without wildcards is looked up, any
  other is compared with the names in a directory, and two
  asterisks lead to everything below it.

  Key definitions include:
    * `Glob.expand`, `Glob.visit`
    * `Glob.search`
-/

------------------------------------------------------------
-- Walking
------------------------------------------------------------

namespace ReleasePipeline

namespace Glob

/- The directories that every directory refers to by dots. -/
def isDots (name : String) : Bool :=
  name == "." || name == ".."

/- The path of a name in a directory. -/
def childPath (directory name : String) : String :=
  if directory = "." then name else Path.join directory name

/- The last name of a path. -/
def lastName (p : String) : String :=
  (Path.fileName? p).getD ""

/-
  Dots in the order in which they are tried.  Only a pattern
  that begins with a dot is compared with them.
-/
def dotsFor (p : Pattern) : List String :=
  if p.head? = some (.literal '.') then
    ["..", "."].filter (accepts p)
  else
    []

mutual

/-
  The paths that the patterns lead to from a directory, the
  first pattern applying to what lies in it.  The fuel bounds
  the number of steps down the tree.
-/
def expand
    (t : FileTree)
    (onlyDirectories : Bool) :
    Nat → List Pattern → String → List String
  | 0, _, _ => []
  | _, [], _ => []
  | fuel + 1, p :: ps, path =>
      match literal? p with
      | some name =>
          let next := childPath path name
          if (if isDots name then t.isDirectory path
              else t.present next) then
            arrive t onlyDirectories fuel ps next
          else
            []
      | none =>
          if t.isDirectory path then
            (dotsFor p).flatMap (fun name =>
                arrive t onlyDirectories fuel ps
                  (Path.join path name)) ++
              (t.children path).flatMap fun name =>
                visit t onlyDirectories fuel (p :: ps)
                  (childPath path name)
          else
            []

/- The paths beyond one that has matched a pattern. -/
def arrive
    (t : FileTree)
    (onlyDirectories : Bool) :
    Nat → List Pattern → String → List String
  | 0, _, _ => []
  | fuel + 1, ps, path =>
      if ps = [] then
        if onlyDirectories && !t.isDirectory path then []
        else [path]
      else
        expand t onlyDirectories fuel ps path

/-
  The paths at and below one whose name has yet to be compared
  with the first pattern.
-/
def visit
    (t : FileTree)
    (onlyDirectories : Bool) :
    Nat → List Pattern → String → List String
  | 0, _, _ => []
  | _, [], _ => []
  | fuel + 1, p :: ps, path =>
      if isRecursive p then
        let rest := ps.dropWhile isRecursive
        let here :=
          match rest with
          | [] => if t.isDirectory path then [path] else []
          | q :: qs =>
              if accepts q (lastName path) then
                arrive t onlyDirectories fuel qs path
              else
                []
        if t.isDirectory path then
          here ++ expand t onlyDirectories fuel (p :: rest) path
        else
          here
      else if accepts p (lastName path) then
        arrive t onlyDirectories fuel ps path
      else
        []

end

------------------------------------------------------------
-- Searching
------------------------------------------------------------

/- The components of a pattern; a slash at the end adds none. -/
def componentTexts (text : String) : List String :=
  let parts := Text.pieces '/' text
  if parts.getLast? = some "" then parts.dropLast else parts

/- Read patterns one after another. -/
def parseAll : List String → Except PatternFault (List Pattern)
  | [] => .ok []
  | text :: texts =>
      match parse text with
      | .error f => .error f
      | .ok p =>
          match parseAll texts with
          | .error f => .error f
          | .ok ps => .ok (p :: ps)

/- More steps than any walk over the tree can take. -/
def stepBound
    (t : FileTree)
    (ps : List Pattern) : Nat :=
  (3 * ps.length + 3) * (t.entries.length + 3)

/-
  The paths that a pattern matches, in the order of the walk.
  The pattern is checked as a whole and then component by
  component.
-/
def search
    (t : FileTree)
    (text : String) : Except PatternFault (List String) :=
  match parse text with
  | .error f => .error f
  | .ok _ =>
      let absolute := Path.isAbsolute text
      let relative :=
        if absolute then String.ofList (text.toList.drop 1) else text
      match parseAll (componentTexts relative) with
      | .error f => .error f
      | .ok ps =>
          .ok (expand t (Text.endsWith text "/") (stepBound t ps) ps
            (if absolute then "/" else "."))

end Glob

end ReleasePipeline
