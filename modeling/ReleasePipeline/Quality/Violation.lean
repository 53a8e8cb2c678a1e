/-
  This file defines a finding of the quality rules.

  Key definitions include:
    * `Severity`
    * `Violation`
    * `Violation.location`
-/

------------------------------------------------------------
-- Findings
------------------------------------------------------------

namespace ReleasePipeline

/-
  How serious a finding is.  The severity is information
  only: the gate fails on every finding alike.
-/
inductive Severity where
  | warning
  | error
deriving DecidableEq, Repr

/- The name of a severity. -/
def Severity.name : Severity → String
  | .warning => "warning"
  | .error => "error"

/-
  A finding of a rule in a file.  Lines count from one; a
  finding about the whole file has no line.
-/
structure Violation where
  rule : String
  severity : Severity
  file : String
  line : Option Nat
  message : String
deriving DecidableEq, Repr

/- The file, and the line if there is one. -/
def Violation.location (v : Violation) : String :=
  match v.line with
  | some line => s!"{v.file}:{line}"
  | none => v.file

end ReleasePipeline
