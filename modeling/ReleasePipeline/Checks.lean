import ReleasePipeline.Fault

/-
  This file defines checks: results without a value that fail
  at the first fault.

  Key definitions include:
    * `Checks.invalid`
    * `Checks.ensure`
    * `Checks.checkAll`
-/

------------------------------------------------------------
-- Checks
------------------------------------------------------------

namespace ReleasePipeline

namespace Checks

/- The failure of a field that holds an unacceptable value. -/
def invalid
    {α : Type}
    (field reason : String) : Except Fault α :=
  .error (.config (.invalidField field reason))

/- A failure unless a condition holds. -/
def ensure
    (condition : Bool)
    (failure : Except Fault Unit) : Except Fault Unit :=
  if condition then .ok () else failure

/- Check every element of a list. -/
def checkAll
    {α : Type}
    (check : α → Except Fault Unit) : List α → Except Fault Unit
  | [] => .ok ()
  | a :: as =>
      match check a with
      | .ok () => checkAll check as
      | .error f => .error f

end Checks

end ReleasePipeline
