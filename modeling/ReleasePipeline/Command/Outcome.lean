import ReleasePipeline.Fault
import ReleasePipeline.Json.Writer

/-
  This file defines what a command leaves behind: the lines
  that it printed, and how it ended.  A command that fails
  prints its failure apart from its lines; one that merely
  stops with a status has said everything in its lines.

  Key definitions include:
    * `Ending`
    * `Outcome`
    * `Outcome.exitCode`
-/

------------------------------------------------------------
-- Outcomes
------------------------------------------------------------

namespace ReleasePipeline

/- How a command ended. -/
inductive Ending where
  | completed
  | stopped (status : Nat)
  | failed (fault : Fault)
deriving DecidableEq, Repr

/- The lines that a command printed, and how it ended. -/
structure Outcome where
  lines : List String
  ending : Ending
deriving DecidableEq, Repr

namespace Outcome

/- The exit code of a command. -/
def exitCode (o : Outcome) : Nat :=
  match o.ending with
  | .completed => 0
  | .stopped status => status
  | .failed f => f.exitCode

/- What a command prints to its output. -/
def printed (o : Outcome) : String :=
  String.join (o.lines.map (· ++ "\n"))

/- What a command prints about its failure, if it has failed. -/
def complaint? (o : Outcome) : Option String :=
  match o.ending with
  | .failed f => some f.display
  | _ => none

/- The outcome of a command that has printed lines. -/
def printing (lines : List String) : Outcome where
  lines := lines
  ending := .completed

/- The outcome of a command that fails before it prints. -/
def fails (f : Fault) : Outcome where
  lines := []
  ending := .failed f

/- The outcome of a command that prints a document. -/
def document (d : Datum) : Outcome :=
  printing [Json.pretty d]

/- The same lines, and another ending. -/
def endingWith
    (o : Outcome)
    (ending : Ending) : Outcome :=
  { o with ending }

/- The outcome in a result, or the failure to get there. -/
def ofResult : Except Fault Outcome → Outcome
  | .ok o => o
  | .error f => fails f

end Outcome

end ReleasePipeline
