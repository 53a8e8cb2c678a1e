import ReleasePipeline.Command.Arguments
import ReleasePipeline.Command.Describing
import ReleasePipeline.Command.Publishing

/-
  This file defines the program: it reads its arguments, looks
  at the project in its directory and carries out a command.

  Key definitions include:
    * `Program.perform`
    * `Program.run`
-/

------------------------------------------------------------
-- Commands
------------------------------------------------------------

namespace ReleasePipeline

variable {σ : Type}

/- The outcome of an action, or of its failure. -/
def Outcome.ofAction
    (a : Action σ Outcome)
    (w : World σ) : Outcome × World σ :=
  let (result, w) := a w
  (ofResult result, w)

namespace Program

/- Carry out a command on a project. -/
def perform
    (h : Host σ)
    (p : Project)
    (env : Environment) :
    Command → World σ → Outcome × World σ
  | .release asked timeout json => release h p env asked timeout json
  | .lock true json => Outcome.ofAction (writeLock p json)
  | .lock false json =>
      Outcome.ofAction (Action.inspect (checkLock p json))
  | .quality rules json =>
      Outcome.ofAction (Action.inspect (checkQuality p rules json))
  | .channel asked json =>
      Outcome.ofAction
        (Action.ofResult (describeChannel p env asked json))
  | .metadata asked fetch json =>
      Outcome.ofAction (describeMetadata h p env asked fetch json)

------------------------------------------------------------
-- The Program
------------------------------------------------------------

/- The status for arguments that make no command. -/
def usageStatus : Nat :=
  2

/- Run the program with its arguments in a directory. -/
def run
    (h : Host σ)
    (env : Environment)
    (root : String)
    (arguments : List String)
    (w : World σ) : Outcome × World σ :=
  match Request.ofArguments? arguments with
  | none => ({ lines := [], ending := .stopped usageStatus }, w)
  | some .help => (.printing [], w)
  | some (.run command) =>
      match Project.load h root w with
      | (.error f, w) => (.fails f, w)
      | (.ok p, w) => perform h p env command w

end Program

end ReleasePipeline
