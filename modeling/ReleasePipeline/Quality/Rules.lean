import ReleasePipeline.Quality.Settings
import ReleasePipeline.Text.Utf8

/-
  This file defines the rules of the rule set.  A rule looks
  at one file at a time; most look at one line at a time.

  Key definitions include:
    * `SourceFile`
    * `Quality.linesOf`
    * `Quality.Rule`
    * `Quality.unownedTodo`
    * `Quality.ruleset`
-/

------------------------------------------------------------
-- Files and Lines
------------------------------------------------------------

namespace ReleasePipeline

/- A file that the rules look at. -/
structure SourceFile where
  path : String
  content : String
deriving DecidableEq, Repr

namespace Quality

/- A line without the carriage return before its newline. -/
def dropReturn (line : List Char) : List Char :=
  if line.getLast? = some '\x0D' then line.dropLast else line

/-
  The lines of a text.  A newline ends a line; what follows
  the last newline is a line unless it is empty.
-/
def linesOf (cs : List Char) : List (List Char) :=
  let parts := Text.splitAt '\n' cs
  parts.dropLast.map dropReturn ++
    match parts.getLast? with
    | none => []
    | some [] => []
    | some last => [last]

/- Lines with their numbers, from a number on. -/
def numberFrom
    (n : Nat) : List (List Char) → List (Nat × List Char)
  | [] => []
  | line :: lines => (n, line) :: numberFrom (n + 1) lines

/- The lines of a file with their numbers, from one on. -/
def numberedLines (f : SourceFile) : List (Nat × List Char) :=
  numberFrom 1 (linesOf f.content.toList)

------------------------------------------------------------
-- Rules
------------------------------------------------------------

/- A rule with its name and what it asks for. -/
structure Rule where
  name : String
  description : String
  check : RuleSettings → SourceFile → List Violation

/- A finding that is an error. -/
def errorAt
    (rule : String)
    (f : SourceFile)
    (line : Option Nat)
    (message : String) : Violation where
  rule := rule
  severity := .error
  file := f.path
  line := line
  message := message

/- The findings of a test that looks at one line at a time. -/
def perLine
    (test : Nat → List Char → List Violation)
    (f : SourceFile) : List Violation :=
  (numberedLines f).flatMap fun line => test line.1 line.2

/- Lines must not be too long. -/
def lineLength : Rule where
  name := "line-length"
  description := "Lines must not exceed the configured maximum length"
  check s f := perLine (fun n line =>
    if s.maxLineLength < line.length then
      [errorAt "line-length" f (some n)
        (s!"Line is longer than {s.maxLineLength} characters " ++
          s!"(found {line.length})")]
    else
      []) f

/- Blanks that may not end a line. -/
def isTrailingBlank (c : Char) : Bool :=
  c == ' ' || c == '\t'

/- Lines must not end in a blank. -/
def trailingWhitespace : Rule where
  name := "trailing-whitespace"
  description := "Lines must not end in whitespace"
  check _ f := perLine (fun n line =>
    if line.getLast?.any isTrailingBlank then
      [errorAt "trailing-whitespace" f (some n)
        "Line has trailing whitespace"]
    else
      []) f

/- The column of the first tab of a line, counted in bytes. -/
def tabColumn? (line : List Char) : Option Nat :=
  if line.contains '\t' then
    some (Utf8.width (line.takeWhile (· != '\t')) + 1)
  else
    none

/- Lines must not hold tabs. -/
def tabCharacter : Rule where
  name := "tab-character"
  description := "Files must not contain tab characters"
  check _ f := perLine (fun n line =>
    match tabColumn? line with
    | some column =>
        [errorAt "tab-character" f (some n)
          s!"Line contains a tab character (column {column})"]
    | none => []) f

/- A file that is not empty must end with a newline. -/
def finalNewline : Rule where
  name := "final-newline"
  description := "Files must end with a newline"
  check _ f :=
    if f.content = "" ∨ f.content.toList.getLast? = some '\n' then
      []
    else
      [errorAt "final-newline" f none "File does not end with a newline"]

------------------------------------------------------------
-- Owners of Open Points
------------------------------------------------------------

/- What follows the first mark that opens a comment. -/
def commentText? : List Char → Option (List Char)
  | '/' :: '/' :: rest => some rest
  | '/' :: '*' :: rest => some rest
  | _ :: rest => commentText? rest
  | [] => none

/- Whether a text begins with a character of a word. -/
def beginsWord (cs : List Char) : Bool :=
  cs.head?.any Unicode.isWord

/-
  What follows the first open point that is a word of its own.
  The first argument shows that a word leads up to the text.
-/
def afterTodo? : Bool → List Char → Option (List Char)
  | _, [] => none
  | inWord, c :: cs =>
      if !inWord && "TODO".toList.isPrefixOf (c :: cs) &&
          !beginsWord (cs.drop 3) then
        some (cs.drop 3)
      else
        afterTodo? (Unicode.isWord c) cs

/- The parentheses at the start of a text, with what they hold. -/
def ownerGroup : List Char → List Char
  | '(' :: cs =>
      if cs.contains ')' then
        '(' :: (cs.takeWhile (· != ')') ++ [')'])
      else
        []
  | _ => []

/- Whether the first open point of a comment names no owner. -/
def unownedTodo (line : List Char) : Bool :=
  match commentText? line with
  | none => false
  | some text =>
      match afterTodo? false text with
      | none => false
      | some rest => Utf8.width (ownerGroup rest) ≤ 2

/- Open points in comments must name an owner. -/
def todoComment : Rule where
  name := "todo-comment"
  description := "TODO comments must name an owner, e.g. TODO(alice)"
  check _ f := perLine (fun n line =>
    if unownedTodo line then
      [{ rule := "todo-comment"
         severity := .warning
         file := f.path
         line := some n
         message := "TODO comment without an owner" }]
    else
      []) f

------------------------------------------------------------
-- Configured Rules
------------------------------------------------------------

/- A file must begin with the header, if one is configured. -/
def fileHeader : Rule where
  name := "file-header"
  description := "Files must start with the configured header"
  check s f :=
    match s.header with
    | none => []
    | some header =>
        if Text.startsWith f.content header then
          []
        else
          [errorAt "file-header" f (some 1)
            "Missing or altered file header"]

/- No line may match a forbidden pattern. -/
def forbiddenPattern : Rule where
  name := "forbidden-pattern"
  description := "Lines must not match any configured forbidden pattern"
  check s f := perLine (fun n line =>
    s.forbidden.filterMap fun p =>
      if p.regex.occursIn (String.ofList line) then
        some (errorAt "forbidden-pattern" f (some n)
          s!"Line matches forbidden pattern `{p.text}`")
      else
        none) f

/- The rules of the rule set, in order. -/
def ruleset : List Rule :=
  [lineLength, trailingWhitespace, tabCharacter, finalNewline,
    todoComment, fileHeader, forbiddenPattern]

/- The rules are those whose names can be suppressed. -/
theorem ruleset_names :
    ruleset.map Rule.name = ruleNames := rfl

end Quality

end ReleasePipeline
