import ReleasePipeline.Files.IoError
import ReleasePipeline.Files.Path
import ReleasePipeline.Text.Utf8

/-
  This file defines a tree of files and the operations on it.
  A tree records what is found at each location, where a
  location is the list of names that lead to it from the
  root.  A path is followed piece by piece from the working
  directory, or from the root if it is absolute, and every
  piece but the last must lead to a directory.

  Key definitions include:
    * `FileTree`
    * `FileTree.locate`
    * `FileTree.node`
    * `FileTree.read`, `FileTree.readText`
    * `FileTree.write`, `FileTree.remove`
    * `FileTree.makeDirectory`, `FileTree.makeDirectories`
    * `FileTree.filesBelow`
-/

------------------------------------------------------------
-- Trees
------------------------------------------------------------

namespace ReleasePipeline

/- What is found at a location. -/
inductive Node where
  | file (bytes : Bytes)
  | directory
deriving DecidableEq, Repr

/- The names that lead to a location from the root. -/
abbrev Location :=
  List String

/-
  The nodes of a tree, each under its location, and the
  location of the working directory.  The root is a directory
  and has no entry.
-/
structure FileTree where
  entries : List (Location × Node)
  workingDirectory : Location
deriving DecidableEq, Repr

namespace FileTree

/- The tree with an empty root, seen from the root. -/
def empty : FileTree where
  entries := []
  workingDirectory := []

/- The node at a location. -/
def nodeAt?
    (t : FileTree)
    (l : Location) : Option Node :=
  if l = [] then
    some .directory
  else
    t.entries.lookup l

/- Put a node at a location, in place of what was there. -/
def setNode
    (t : FileTree)
    (l : Location)
    (n : Node) : FileTree :=
  { t with entries := t.entries.filter (·.1 != l) ++ [(l, n)] }

/- Take the node away from a location. -/
def clearNode
    (t : FileTree)
    (l : Location) : FileTree :=
  { t with entries := t.entries.filter (·.1 != l) }

------------------------------------------------------------
-- Following a Path
------------------------------------------------------------

/- The greatest number of bytes in a name. -/
def nameLimit : Nat :=
  255

/- A path of this many bytes is too long. -/
def pathLimit : Nat :=
  4096

/-
  Follow one piece of a path.  The location reached so far
  must be a directory; an idle piece stays there, two dots
  lead to its parent and a name leads below it.
-/
def step
    (t : FileTree)
    (l : Location)
    (piece : List Char) : Except IoError Location :=
  match t.nodeAt? l with
  | none => .error .notFound
  | some (.file _) => .error .notADirectory
  | some .directory =>
      if Path.isIdle piece then
        .ok l
      else if piece = ['.', '.'] then
        .ok l.dropLast
      else if nameLimit < Utf8.width piece then
        .error .nameTooLong
      else
        .ok (l ++ [String.ofList piece])

/- Where a path starts from. -/
def origin
    (t : FileTree)
    (p : String) : Location :=
  if Path.isAbsolute p then [] else t.workingDirectory

/- Paths that no tree can follow. -/
def checkPath (p : String) : Except IoError Unit :=
  if '\x00' ∈ p.toList then
    .error .nulInPath
  else if p = "" then
    .error .notFound
  else if pathLimit ≤ Utf8.width p.toList then
    .error .nameTooLong
  else
    .ok ()

/- Follow the pieces of a path one after another. -/
def follow
    (t : FileTree) :
    Location → List (List Char) → Except IoError Location
  | l, [] => .ok l
  | l, piece :: pieces =>
      match t.step l piece with
      | .error e => .error e
      | .ok next => t.follow next pieces

/-
  The location that a path leads to.  Nothing need be there
  yet: a path may end in a new name.
-/
def locate
    (t : FileTree)
    (p : String) : Except IoError Location :=
  match checkPath p with
  | .error e => .error e
  | .ok () => t.follow (t.origin p) (Path.rawPieces p)

/- The node that a path leads to. -/
def node
    (t : FileTree)
    (p : String) : Except IoError Node :=
  match t.locate p with
  | .error e => .error e
  | .ok l =>
      match t.nodeAt? l with
      | some n => .ok n
      | none => .error .notFound

/- Whether anything is at a path. -/
def present
    (t : FileTree)
    (p : String) : Bool :=
  (t.node p).toOption.isSome

/- Whether a file is at a path. -/
def isFile
    (t : FileTree)
    (p : String) : Bool :=
  match t.node p with
  | .ok (.file _) => true
  | _ => false

/- Whether a directory is at a path. -/
def isDirectory
    (t : FileTree)
    (p : String) : Bool :=
  match t.node p with
  | .ok .directory => true
  | _ => false

------------------------------------------------------------
-- Reading
------------------------------------------------------------

/- The contents of the file at a path. -/
def read
    (t : FileTree)
    (p : String) : Except IoError Bytes :=
  match t.node p with
  | .error e => .error e
  | .ok .directory => .error .isADirectory
  | .ok (.file bytes) => .ok bytes

/- The contents of the file at a path, as text. -/
def readText
    (t : FileTree)
    (p : String) : Except IoError String :=
  match t.read p with
  | .error e => .error e
  | .ok bytes =>
      match Utf8.decode bytes with
      | some text => .ok text
      | none => .error .notText

------------------------------------------------------------
-- Writing
------------------------------------------------------------

/- A path whose last piece names nothing new. -/
def endsOpen (p : String) : Bool :=
  match (Path.rawPieces p).getLast? with
  | some piece => Path.isIdle piece || piece == ['.', '.']
  | none => true

/-
  Store a file.  A path that ends in a slash or in dots can
  only name a directory, so it is refused.
-/
def write
    (t : FileTree)
    (p : String)
    (bytes : Bytes) : Except IoError FileTree :=
  if endsOpen p then
    match checkPath p with
    | .error e => .error e
    | .ok () =>
        match t.follow (t.origin p) (Path.rawPieces p).dropLast with
        | .error e => .error e
        | .ok _ => .error .isADirectory
  else
    match t.locate p with
    | .error e => .error e
    | .ok l =>
        match t.nodeAt? l with
        | some .directory => .error .isADirectory
        | _ => .ok (t.setNode l (.file bytes))

/- Remove the file at a path. -/
def remove
    (t : FileTree)
    (p : String) : Except IoError FileTree :=
  match t.locate p with
  | .error e => .error e
  | .ok l =>
      match t.nodeAt? l with
      | none => .error .notFound
      | some .directory => .error .isADirectory
      | some (.file _) => .ok (t.clearNode l)

/- Make one directory; slashes at the end do not count. -/
def makeDirectory
    (t : FileTree)
    (p : String) : Except IoError FileTree :=
  match checkPath p with
  | .error e => .error e
  | .ok () =>
      let kept :=
        ((Path.rawPieces p).reverse.dropWhile (· == [])).reverse
      match t.follow (t.origin p) kept with
      | .error e => .error e
      | .ok l =>
          match t.nodeAt? l with
          | some _ => .error .alreadyExists
          | none => .ok (t.setNode l .directory)

/- A path followed by its parents, the nearest one first. -/
def lineage : Nat → String → List String
  | 0, p => [p]
  | fuel + 1, p =>
      match Path.parent? p with
      | none => [p]
      | some above => p :: lineage fuel above

/-
  Make the first directory of a lineage, and those above it
  as far as they are missing.  What was made stays when a
  later step fails.
-/
def makeLineage : List String → FileTree → Except IoError Unit × FileTree
  | [], t => (.error (.described "failed to create whole tree"), t)
  | p :: above, t =>
      if p = "" then
        (.ok (), t)
      else
        match t.makeDirectory p with
        | .ok made => (.ok (), made)
        | .error e =>
            if e = .notFound then
              match makeLineage above t with
              | (.error e, t) => (.error e, t)
              | (.ok (), t) =>
                  match t.makeDirectory p with
                  | .ok made => (.ok (), made)
                  | .error e =>
                      if t.isDirectory p then (.ok (), t)
                      else (.error e, t)
            else if t.isDirectory p then
              (.ok (), t)
            else
              (.error e, t)

/- Make a directory and every missing directory above it. -/
def makeDirectories
    (t : FileTree)
    (p : String) : Except IoError Unit × FileTree :=
  makeLineage (lineage p.length p) t

------------------------------------------------------------
-- Listing
------------------------------------------------------------

/- The names of what lies directly in a directory, in order. -/
def namesIn
    (t : FileTree)
    (l : Location) : List String :=
  let names :=
    t.entries.filterMap fun entry =>
      if entry.1.dropLast = l ∧ entry.1 ≠ [] then
        entry.1.getLast?
      else
        none
  names.mergeSort (fun a b => decide (a ≤ b))

/- The names of what lies directly in the directory at a path. -/
def children
    (t : FileTree)
    (p : String) : List String :=
  match t.locate p with
  | .ok l => t.namesIn l
  | .error _ => []

/- The files below a location, each under the rest of its names. -/
def filesBelow
    (t : FileTree)
    (l : Location) : List (Location × Bytes) :=
  t.entries.filterMap fun entry =>
    match entry.2 with
    | .directory => none
    | .file bytes =>
        if l.isPrefixOf entry.1 ∧ entry.1 ≠ l then
          some (entry.1.drop l.length, bytes)
        else
          none

end FileTree

end ReleasePipeline
