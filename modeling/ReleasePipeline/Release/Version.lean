import ReleasePipeline.Fault
import ReleasePipeline.Text.Basic

/-
  This file defines the version identifier of a release.  It
  becomes one segment of a remote path, so it may not be
  empty, lead to another directory, or hold blanks, controls
  or separators.  No other form is asked for.

  Key definitions include:
    * `isPathSegment`
    * `Version`
    * `Version.ofText`
-/

------------------------------------------------------------
-- Path Segments
------------------------------------------------------------

namespace ReleasePipeline

/- Characters that may not stand in a path segment. -/
def breaksSegment (c : Char) : Bool :=
  Text.isSpace c || Text.isControl c || c == '/' || c == '\\'

/- A single component of a remote path that stays in place. -/
def isPathSegment (s : String) : Bool :=
  s != "" && s != "." && s != ".." &&
    !s.toList.any breaksSegment

/- Texts separated by dots, each of which is a path segment. -/
def isDottedPath (s : String) : Bool :=
  (Text.pieces '.' s).all isPathSegment

/- The version identifier of a release. -/
structure Version where
  text : String
  segment : isPathSegment text = true
deriving DecidableEq

instance : Repr Version where
  reprPrec v _ := repr v.text

/- The version that a text names, if it is a path segment. -/
def Version.ofText (text : String) : Except Fault Version :=
  if h : isPathSegment text = true then
    .ok ⟨text, h⟩
  else
    .error (.metadata (.invalidVersion text))

end ReleasePipeline
