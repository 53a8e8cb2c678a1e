import ReleasePipeline.Command.Program
import ReleasePipeline.Shell.Running

/-
  This file is the program.  It starts no other program and
  enters no directory by itself: its input names the files of
  the project, one a line, and behind them may stand the
  listing of the workspace that `cargo` prints.  The files are
  read before the run, and what the run has changed is stored
  after it.

  The moment of publication is taken from the environment, so
  that a run can be repeated.

  Key definitions include:
    * `Session`
    * `Session.host`
    * `Session.gather`, `Session.keep`
    * `main`
-/

------------------------------------------------------------
-- Sessions
------------------------------------------------------------

namespace ReleasePipeline

/-
  What a run is given: its directory with the files, the
  values of variables, and the listing of the workspace.
-/
structure Session where
  root : String
  tree : FileTree
  values : List (String × String)
  listing : Bytes

namespace Session

/- The variable that holds the moment of publication. -/
def momentVariable : String :=
  "PUBLISHED_AT"

/- The values of the variables. -/
def environment (s : Session) : Environment :=
  fun name => s.values.lookup name

/- A host that answers for `cargo` and knows the shell's tools. -/
def host (s : Session) : Host Unit where
  start call w :=
    if call.program = "cargo" then
      (.ok { status := 0, output := s.listing, errors := [] }, w)
    else
      Shell.host.start call w
  request := Shell.host.request
  clock _ := (s.values.lookup momentVariable).getD ""

------------------------------------------------------------
-- Files
------------------------------------------------------------

/- The path of a location. -/
def pathOf (l : Location) : String :=
  "/" ++ "/".intercalate l

/- Put a file into a tree together with the directories above it. -/
def place
    (t : FileTree)
    (path : String)
    (bytes : Bytes) : FileTree :=
  let above := (t.makeDirectories ((Path.parent? path).getD "")).2
  (above.write path bytes).toOption.getD above

/- The tree that has nothing but a working directory. -/
def treeAt (root : String) : FileTree :=
  let t := (FileTree.empty.makeDirectories root).2
  { t with workingDirectory := (t.locate root).toOption.getD [] }

/- The nodes of a tree that another one does not have. -/
def changes
    (before after : FileTree) : List (Location × Node) :=
  after.entries.filter fun e => before.entries.lookup e.1 != some e.2

/- The locations of a tree that another one has lost. -/
def losses
    (before after : FileTree) : List Location :=
  (before.entries.map (·.1)).filter fun l =>
    (after.entries.lookup l).isNone

/- Read a file, if it can be read. -/
def readFile? (path : String) : IO (Option Bytes) := do
  try
    pure (some (← IO.FS.readBinFile path).toList)
  catch _ =>
    pure none

/- Store a node. -/
def store (l : Location) : Node → IO Unit
  | .directory => IO.FS.createDirAll (pathOf l)
  | .file bytes => do
      IO.FS.createDirAll (pathOf l.dropLast)
      IO.FS.writeBinFile (pathOf l) ⟨bytes.toArray⟩

------------------------------------------------------------
-- Beginning and End
------------------------------------------------------------

/- The lines of the input. -/
def readLines (input : IO.FS.Stream) : IO (List String) := do
  let mut lines := #[]
  repeat
    let line ← input.getLine
    if line = "" then
      break
    lines := lines.push line
  pure lines.toList

/- Read the files that the lines of the input name. -/
def readTree
    (root : String)
    (lines : List String) : IO FileTree := do
  let mut tree := treeAt root
  for line in lines do
    let path := Path.join root (Text.trim line)
    if let some bytes ← readFile? path then
      tree := place tree path bytes
  pure tree

/- Look up the variables that the configuration names. -/
def readVariables
    (tree : FileTree)
    (root : String) : IO (List (String × String)) := do
  let named := ((Config.load tree root).toOption.map Config.variableNames).getD []
  let mut found := []
  for name in momentVariable :: named do
    if let some value ← IO.getEnv name then
      found := (name, value) :: found
  pure found

/- Read what a run in the current directory is given. -/
def gather : IO Session := do
  let root := toString (← IO.currentDir)
  let lines ← readLines (← IO.getStdin)
  let tree ← readTree root lines
  let values ← readVariables tree root
  pure { root, tree, values
         listing := Utf8.encode (String.join lines) }

/- Store what a run has changed. -/
def keep
    (s : Session)
    (after : FileTree) : IO Unit := do
  for l in losses s.tree after do
    IO.FS.removeFile (pathOf l)
  for (l, n) in changes s.tree after do
    store l n

end Session

end ReleasePipeline

open ReleasePipeline

------------------------------------------------------------
-- The Program
------------------------------------------------------------

/- Run the program in the current directory. -/
def main (arguments : List String) : IO UInt32 := do
  let s ← Session.gather
  let (outcome, w) :=
    Program.run s.host s.environment s.root arguments
      { tree := s.tree, outside := () }
  s.keep w.tree
  IO.print outcome.printed
  if let some complaint := outcome.complaint? then
    IO.eprint complaint
  pure (UInt32.ofNat outcome.exitCode)
