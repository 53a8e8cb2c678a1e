import ReleasePipeline.Text.Basic

/-
  This file defines textual file paths.  A path is a text
  whose pieces are separated by slashes; empty pieces and
  pieces that are a single dot stand for nothing, except for
  a dot at the very start of a relative path.

  Key definitions include:
    * `Path.isAbsolute`
    * `Path.join`
    * `Path.Component`
    * `Path.components`
    * `Path.fileName?`
    * `Path.extension?`
    * `Path.parent?`
    * `Path.relativeTo?`
    * `Path.before`
-/

------------------------------------------------------------
-- Joining
------------------------------------------------------------

namespace ReleasePipeline

namespace Path

/- A path is absolute when it starts with a slash. -/
def isAbsolute (p : String) : Bool :=
  p.toList.head? == some '/'

/-
  Append a path to a base.  An absolute path replaces the
  base; otherwise a slash is put between the two unless the
  base is empty or ends in one.
-/
def join
    (base p : String) : String :=
  if isAbsolute p then
    p
  else if base.toList.getLast?.all (· == '/') then
    base ++ p
  else
    base ++ "/" ++ p

------------------------------------------------------------
-- Components
------------------------------------------------------------

/-
  What a path is made of: the root, a leading dot, steps to
  the parent, and names.
-/
inductive Component where
  | root
  | here
  | up
  | name (text : String)
deriving DecidableEq, Repr

/- A piece that stands for nothing. -/
def isIdle (piece : List Char) : Bool :=
  piece == [] || piece == ['.']

/- The pieces between the slashes, without the root's slash. -/
def rawPieces (p : String) : List (List Char) :=
  match p.toList with
  | '/' :: cs => Text.splitAt '/' cs
  | cs => Text.splitAt '/' cs

/- Whether a path begins with a dot that counts as a component. -/
def startsHere (p : String) : Bool :=
  !isAbsolute p && (rawPieces p).head? == some ['.']

/- The component that a piece stands for. -/
def pieceComponent (piece : List Char) : Option Component :=
  if isIdle piece then
    none
  else if piece == ['.', '.'] then
    some .up
  else
    some (.name (String.ofList piece))

/- The components of a path. -/
def components (p : String) : List Component :=
  let start :=
    if isAbsolute p then [.root]
    else if startsHere p then [.here]
    else []
  start ++ (rawPieces p).filterMap pieceComponent

------------------------------------------------------------
-- Names
------------------------------------------------------------

/- The last component, if it is a name. -/
def fileName? (p : String) : Option String :=
  match (components p).getLast? with
  | some (.name text) => some text
  | _ => none

/-
  The part of a name after its last dot.  A name without a
  dot, or whose only dot comes first, has none.
-/
def extensionOfName (name : List Char) : Option (List Char) :=
  let after := name.reverse.takeWhile (· != '.')
  let stem := (name.reverse.dropWhile (· != '.')).drop 1
  if after.length = name.length ∨ stem = [] then
    none
  else
    some after.reverse

/- The extension of the file name. -/
def extension? (p : String) : Option String := do
  let name ← fileName? p
  let ext ← extensionOfName name.toList
  pure (String.ofList ext)

------------------------------------------------------------
-- Parents and Remainders
------------------------------------------------------------

/- Write pieces as a relative path. -/
def joinPieces (pieces : List (List Char)) : String :=
  String.ofList (List.intercalate ['/'] pieces)

/- Drop the trailing pieces that stand for nothing. -/
def dropIdleEnd (pieces : List (List Char)) : List (List Char) :=
  (pieces.reverse.dropWhile isIdle).reverse

/-
  The path without its last component.  The root and the
  empty path have no parent.
-/
def parent? (p : String) : Option String :=
  let lead := if isAbsolute p then "/" else ""
  if startsHere p then
    match dropIdleEnd (rawPieces p).tail with
    | [] => some ""
    | kept =>
        some (joinPieces (['.'] :: dropIdleEnd kept.dropLast))
  else
    match dropIdleEnd (rawPieces p) with
    | [] => none
    | kept => some (lead ++ joinPieces (dropIdleEnd kept.dropLast))

/- Drop pieces until `count` components have been passed. -/
def dropComponents : Nat → List (List Char) → List (List Char)
  | _, [] => []
  | 0, pieces => pieces
  | count + 1, piece :: pieces =>
      if isIdle piece then
        dropComponents (count + 1) pieces
      else
        dropComponents count pieces

/-
  What remains of a path after the components of a base, if
  it begins with them.  The inner spelling of the remainder
  is kept.
-/
def relativeTo?
    (p base : String) : Option String :=
  let known := components base
  if known.isPrefixOf (components p) then
    if known = [] then
      some p
    else
      let named := known.filter (fun c => c != .root && c != .here)
      let rest :=
        if startsHere p then (rawPieces p).tail else rawPieces p
      some (joinPieces (dropIdleEnd
        ((dropComponents named.length rest).dropWhile isIdle)))
  else
    none

------------------------------------------------------------
-- Order
------------------------------------------------------------

/- The kinds of components in their order. -/
def Component.rank : Component → Nat
  | .root => 0
  | .here => 1
  | .up => 2
  | .name _ => 3

/- Whether one component comes before another. -/
def Component.before : Component → Component → Bool
  | .name a, .name b => decide (a.toList < b.toList)
  | a, b => decide (a.rank < b.rank)

/- Paths are ordered component by component. -/
def componentsBefore :
    List Component → List Component → Bool
  | [], [] => false
  | [], _ :: _ => true
  | _ :: _, [] => false
  | a :: as, b :: bs =>
      a.before b || (a == b && componentsBefore as bs)

/- Whether one path comes before another. -/
def before (p q : String) : Bool :=
  componentsBefore (components p) (components q)

end Path

end ReleasePipeline
