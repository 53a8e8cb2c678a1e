import ReleasePipeline.Data.Datum
import ReleasePipeline.Fault
import ReleasePipeline.Glob.Pattern
import ReleasePipeline.Regex.Meaning

/-
  This file defines the settings of the quality rules: how
  they are configured, and the form in which the rules use
  them, with all patterns read.

  Key definitions include:
    * `Suppression`, `QualityConfig`
    * `RuleSettings`
    * `QualityConfig.compile`
    * `RuleSettings.suppresses`
-/

------------------------------------------------------------
-- Configuration
------------------------------------------------------------

namespace ReleasePipeline

/- A rule, or all, that is suppressed in the files of a glob. -/
structure Suppression where
  rule : String
  files : String
deriving DecidableEq, Repr

/- The configuration of the quality rules. -/
structure QualityConfig where
  ruleset : String
  sources : List String
  suppressions : List Suppression
  maxLineLength : Nat
  header : Option String
  forbiddenPatterns : List String
deriving DecidableEq, Repr

/- The name of the rule set. -/
def rulesetName : String :=
  "quay-1"

/- The rules of the rule set, in order. -/
def ruleNames : List String :=
  ["line-length", "trailing-whitespace", "tab-character",
    "final-newline", "todo-comment", "file-header",
    "forbidden-pattern"]

namespace QualityConfig

/- The configuration that is used unless another is given. -/
def default : QualityConfig where
  ruleset := rulesetName
  sources := ["src/**/*.rs"]
  suppressions := []
  maxLineLength := 120
  header := none
  forbiddenPatterns := []

end QualityConfig

------------------------------------------------------------
-- Documents
------------------------------------------------------------

/- Read a suppression. -/
def Suppression.ofDatum
    (dialect : Datum.Dialect)
    (d : Datum) : Option Suppression := do
  let f ← d.fields? dialect ["rule", "files"]
  let rule ← Datum.required Datum.text? (f "rule")
  let files ← Datum.required Datum.text? (f "files")
  pure { rule, files }

/- The value of a suppression. -/
def Suppression.toDatum (s : Suppression) : Datum :=
  .record [("rule", .text s.rule), ("files", .text s.files)]

namespace QualityConfig

/- Read a configuration of the rules. -/
def ofDatum
    (dialect : Datum.Dialect)
    (d : Datum) : Option QualityConfig := do
  let f ← d.fields? dialect
    ["ruleset", "sources", "suppressions", "max_line_length",
      "header", "forbidden_patterns"]
  let ruleset ←
    Datum.orElse Datum.text? default.ruleset (f "ruleset")
  let sources ←
    Datum.orElse (Datum.list? Datum.text?) default.sources
      (f "sources")
  let suppressions ←
    Datum.orElse (Datum.list? (Suppression.ofDatum dialect))
      default.suppressions (f "suppressions")
  let maxLineLength ←
    Datum.orElse (Datum.bounded? (Nat.pow 2 64)) default.maxLineLength
      (f "max_line_length")
  let header ← Datum.optionalText (f "header")
  let forbiddenPatterns ←
    Datum.orElse (Datum.list? Datum.text?) default.forbiddenPatterns
      (f "forbidden_patterns")
  pure { ruleset, sources, suppressions, maxLineLength, header,
         forbiddenPatterns }

/- The value of a configuration of the rules. -/
def toDatum (c : QualityConfig) : Datum :=
  .record [("ruleset", .text c.ruleset),
    ("sources", Datum.ofTexts c.sources),
    ("suppressions", .list (c.suppressions.map Suppression.toDatum)),
    ("max_line_length", .integer c.maxLineLength),
    ("header", Datum.ofText? c.header),
    ("forbidden_patterns", Datum.ofTexts c.forbiddenPatterns)]

end QualityConfig

------------------------------------------------------------
-- Settings
------------------------------------------------------------

/- A pattern that no line may match. -/
structure ForbiddenPattern where
  text : String
  regex : Regex
deriving DecidableEq, Repr

/- The settings in the form in which the rules use them. -/
structure RuleSettings where
  sources : List String
  maxLineLength : Nat
  header : Option String
  forbidden : List ForbiddenPattern
  suppressions : List (String × Glob.Pattern)
deriving DecidableEq, Repr

/- The failure to read a glob. -/
def Fault.glob (f : Glob.PatternFault) : Fault :=
  .plain s!"Invalid glob pattern: {f.message}"

/- The failure to read a regular expression. -/
def Fault.regex : Fault :=
  .plain "Invalid regular expression: the pattern is malformed"

/- Read a glob. -/
def readGlob (text : String) : Except Fault Glob.Pattern :=
  match Glob.parse text with
  | .ok p => .ok p
  | .error f => .error (.glob f)

/- Read a forbidden pattern. -/
def readForbidden (text : String) : Except Fault ForbiddenPattern :=
  match Regex.parse? text with
  | some regex => .ok { text, regex }
  | none => .error .regex

/- Read the glob of a suppression. -/
def readSuppression
    (s : Suppression) : Except Fault (String × Glob.Pattern) :=
  match readGlob s.files with
  | .ok p => .ok (s.rule, p)
  | .error f => .error f

/- The settings of a configuration whose patterns can be read. -/
def QualityConfig.compile
    (c : QualityConfig) : Except Fault RuleSettings := do
  let forbidden ← c.forbiddenPatterns.mapM readForbidden
  let suppressions ← c.suppressions.mapM readSuppression
  pure { sources := c.sources
         maxLineLength := c.maxLineLength
         header := c.header
         forbidden
         suppressions }

/- Whether a rule is suppressed in a file. -/
def RuleSettings.suppresses
    (s : RuleSettings)
    (rule file : String) : Bool :=
  s.suppressions.any fun entry =>
    (entry.1 == "*" || entry.1 == rule) && Glob.accepts entry.2 file

end ReleasePipeline
