import ReleasePipeline.Data.Datum

/-
  This file defines the stages of a release and the record of
  those that a run has entered.  Stages are entered one after
  another; the record only grows.

  Key definitions include:
    * `Stage`
    * `Progress`
    * `Progress.start`, `Progress.enter`
-/

------------------------------------------------------------
-- Stages
------------------------------------------------------------

namespace ReleasePipeline

/- Where a run stands.  A failed run names the kind of failure. -/
inductive Stage where
  | init
  | lockChecked
  | gatePassed
  | signed
  | published
  | failed (kind : String)
deriving DecidableEq, Repr

namespace Stage

/- The name of a stage. -/
def name : Stage → String
  | .init => "INIT"
  | .lockChecked => "LOCK_CHECKED"
  | .gatePassed => "GATE_PASSED"
  | .signed => "SIGNED"
  | .published => "PUBLISHED"
  | .failed _ => "FAILED"

/- How a stage is shown; a failed run with the kind of failure. -/
def display : Stage → String
  | .failed kind => s!"FAILED({kind})"
  | stage => stage.name

/- The value of a stage. -/
def toDatum (s : Stage) : Datum :=
  .record ([("state", .text s.name)] ++
    match s with
    | .failed kind => [("reason", .text kind)]
    | _ => [])

end Stage

/- The stage of a run, and every stage that it has entered. -/
structure Progress where
  stage : Stage
  history : List Stage
deriving DecidableEq, Repr

namespace Progress

/- The progress of a run that has not begun. -/
def start : Progress where
  stage := .init
  history := [.init]

/- Enter a stage. -/
def enter
    (p : Progress)
    (s : Stage) : Progress where
  stage := s
  history := p.history ++ [s]

end Progress

end ReleasePipeline
