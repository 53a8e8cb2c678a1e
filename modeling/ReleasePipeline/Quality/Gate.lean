import ReleasePipeline.Files.Tree
import ReleasePipeline.Glob.Walk
import ReleasePipeline.Quality.Report

/-
  This file defines the quality gate: which files of a tree
  are looked at, and when the tree passes.  A tree in which no
  file is found does not pass.

  Key definitions include:
    * `Gate.discover`
    * `Gate.report`
    * `Gate.evaluate`
-/

------------------------------------------------------------
-- Discovery
------------------------------------------------------------

namespace ReleasePipeline

namespace Gate

/- The pattern that a source glob stands for below a root. -/
def fullPattern (root pattern : String) : String :=
  Text.dropTrailingSlashes (Glob.escape root) ++ "/" ++ pattern

/- Add a path at its place, unless it is there already. -/
def insertPath
    (p : String) : List String → List String
  | [] => [p]
  | q :: qs =>
      if Path.before p q then
        p :: q :: qs
      else if Path.before q p then
        q :: insertPath p qs
      else
        q :: qs

/- The files that the globs match, each once and in order. -/
def discoverFrom
    (t : FileTree)
    (root : String) :
    List String → List String → Except Fault (List String)
  | [], found => .ok found
  | pattern :: patterns, found =>
      match Glob.search t (fullPattern root pattern) with
      | .error f => .error (.glob f)
      | .ok paths =>
          discoverFrom t root patterns
            ((paths.filter t.isFile).foldl
              (fun found p => insertPath p found) found)

/- The source files below a root. -/
def discover
    (t : FileTree)
    (s : RuleSettings)
    (root : String) : Except Fault (List String) :=
  discoverFrom t root s.sources []

------------------------------------------------------------
-- Evaluation
------------------------------------------------------------

/- Read a source file; bytes that are no text are replaced. -/
def readSource
    (t : FileTree)
    (root path : String) : Except Fault SourceFile :=
  match ioContext s!"Failed to read {path}" (t.read path) with
  | .error f => .error f
  | .ok bytes =>
      .ok { path := (Path.relativeTo? path root).getD path
            content := Utf8.decodeLossy bytes }

/- Report on the source files below a root. -/
def report
    (t : FileTree)
    (s : RuleSettings)
    (root : String) : Except Fault QualityReport := do
  let paths ← discover t s root
  if paths = [] then
    .error (.config (.invalidField "quality.sources"
      (", ".intercalate s.sources ++
        s!" matched no files under {root}")))
  else
    let files ← paths.mapM (readSource t root)
    pure (Quality.run Quality.ruleset rulesetName s files)

/- Any finding, however serious, fails the gate. -/
def evaluate
    (t : FileTree)
    (s : RuleSettings)
    (root : String) : Except Fault QualityReport := do
  let r ← report t s root
  if r.passed then
    pure r
  else
    .error (.release (.qualityGate r.violations))

end Gate

end ReleasePipeline
