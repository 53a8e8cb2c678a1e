import ReleasePipeline.Quality.Rules

/-
  This file defines the report of the quality rules over some
  files.  Findings that are suppressed are counted and left
  out; the others are ordered by file, line and rule, so a
  report does not depend on the order of the files.

  Key definitions include:
    * `QualityReport`
    * `Quality.findings`, `Quality.suppressedFindings`
    * `Quality.run`
    * `QualityReport.passed`
-/

------------------------------------------------------------
-- Reports
------------------------------------------------------------

namespace ReleasePipeline

/- The findings of the rules over some files. -/
structure QualityReport where
  ruleset : String
  filesChecked : Nat
  suppressed : Nat
  violations : List Violation
deriving DecidableEq, Repr

namespace QualityReport

/- The gate is passed only without any finding. -/
def passed (r : QualityReport) : Bool :=
  r.violations.isEmpty

/- The number of errors. -/
def errorCount (r : QualityReport) : Nat :=
  (r.violations.filter (·.severity == .error)).length

/- The number of warnings. -/
def warningCount (r : QualityReport) : Nat :=
  r.violations.length - r.errorCount

end QualityReport

namespace Quality

/- The place of a line among others; no line comes first. -/
def lineRank : Option Nat → Nat
  | none => 0
  | some n => n + 1

/- Whether a finding may stand before another. -/
def notAfter (v w : Violation) : Bool :=
  if v.file = w.file then
    if lineRank v.line = lineRank w.line then
      decide (v.rule ≤ w.rule)
    else
      lineRank v.line < lineRank w.line
  else
    decide (v.file < w.file)

------------------------------------------------------------
-- Running the Rules
------------------------------------------------------------

/- All findings of the rules in a file, rule by rule. -/
def allFindings
    (rules : List Rule)
    (s : RuleSettings)
    (f : SourceFile) : List Violation :=
  rules.flatMap fun r => r.check s f

/- Whether a finding in a file is suppressed. -/
def isSuppressed
    (s : RuleSettings)
    (f : SourceFile)
    (v : Violation) : Bool :=
  s.suppresses v.rule f.path

/- The findings in a file that are not suppressed. -/
def findings
    (rules : List Rule)
    (s : RuleSettings)
    (f : SourceFile) : List Violation :=
  (allFindings rules s f).filter (!isSuppressed s f ·)

/- The findings in a file that are suppressed. -/
def suppressedFindings
    (rules : List Rule)
    (s : RuleSettings)
    (f : SourceFile) : List Violation :=
  (allFindings rules s f).filter (isSuppressed s f)

/- Run rules over files. -/
def run
    (rules : List Rule)
    (name : String)
    (s : RuleSettings)
    (files : List SourceFile) : QualityReport where
  ruleset := name
  filesChecked := files.length
  suppressed := (files.flatMap (suppressedFindings rules s)).length
  violations :=
    (files.flatMap (findings rules s)).mergeSort notAfter

end Quality

------------------------------------------------------------
-- Documents
------------------------------------------------------------

/- The value of a finding. -/
def Violation.toDatum (v : Violation) : Datum :=
  .record ([("rule", .text v.rule),
      ("severity", .text v.severity.name),
      ("file", .text v.file)] ++
    (match v.line with
      | some n => [("line", .integer n)]
      | none => []) ++
    [("message", .text v.message)])

/- The value of a report. -/
def QualityReport.toDatum (r : QualityReport) : Datum :=
  .record [("ruleset", .text r.ruleset),
    ("files_checked", .integer r.filesChecked),
    ("suppressed", .integer r.suppressed),
    ("violations", .list (r.violations.map Violation.toDatum))]

end ReleasePipeline
