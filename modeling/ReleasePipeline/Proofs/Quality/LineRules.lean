import ReleasePipeline.Proofs.Quality.Lines

/-
  This file proves that the rules that look at one line at a
  time look at nothing else.  What such a rule finds in a line
  is what it finds in a file with that line only, whatever
  lines stand around it, and whichever line ends the file has.

  Key definitions include:
    * `Violation.atLine`, `Violation.movedDown`
    * `Quality.lineRules`
    * `Quality.LineByLine`
    * `Quality.findingsAt`

  Main declarations:
    * `Quality.lineByLine_of_mem`
    * `Quality.LineByLine.check_append`
    * `Quality.lineRules_local`
    * `Quality.lineRules_ignore_returns`
-/

------------------------------------------------------------
-- Findings Elsewhere
------------------------------------------------------------

namespace ReleasePipeline

namespace Violation

/- The same finding about the line of a number. -/
def atLine
    (n : Nat)
    (v : Violation) : Violation :=
  { v with line := some n }

/- The same finding a number of lines further down. -/
def movedDown
    (k : Nat)
    (v : Violation) : Violation :=
  { v with line := v.line.map (· + k) }

theorem movedDown_atLine
    (n k : Nat)
    (v : Violation) :
    (v.atLine n).movedDown k = v.atLine (n + k) :=
  rfl

theorem atLine_movedDown
    (n k : Nat)
    (v : Violation) :
    (v.movedDown k).atLine n = v.atLine n :=
  rfl

theorem movedDown_line_iff
    {n k : Nat}
    {v : Violation} :
    (v.movedDown k).line = some (k + n) ↔ v.line = some n := by
  unfold movedDown
  cases v.line with
  | none => simp
  | some m =>
      simp only [Option.map_some, Option.some.injEq]
      omega

end Violation

------------------------------------------------------------
-- One Line at a Time
------------------------------------------------------------

namespace Quality

variable {rule : Rule} {s : RuleSettings} {path a b : String}

/- The rules that look at one line at a time. -/
def lineRules : List Rule :=
  [lineLength, trailingWhitespace, tabCharacter, todoComment,
    forbiddenPattern]

/- A file with a single line. -/
def singleLine
    (path : String)
    (line : List Char) : SourceFile where
  path := path
  content := String.ofList (line ++ ['\x0D', '\n'])

/- A rule that finds in each line what it finds in it alone. -/
def LineByLine (rule : Rule) : Prop :=
  ∀ s f, rule.check s f =
    perLine
      (fun n line =>
        (rule.check s (singleLine f.path line)).map (·.atLine n))
      f

theorem numberedLines_singleLine
    {line : List Char}
    (hLine : '\n' ∉ line)
    (path : String) :
    numberedLines (singleLine path line) = [(1, line)] := by
  have hMarked : '\n' ∉ line ++ ['\x0D'] := by simp [hLine]
  have hSplit :
      line ++ ['\x0D', '\n'] = (line ++ ['\x0D']) ++ '\n' :: [] := by
    simp
  unfold numberedLines singleLine
  rw [String.toList_ofList, hSplit, linesOf_append_newline hMarked]
  unfold dropReturn
  rw [List.getLast?_concat, if_pos rfl, List.dropLast_concat]
  rfl

/- The finding of an error names the path of the file only. -/
theorem errorAt_some
    {f g : SourceFile}
    (hPath : f.path = g.path)
    (name : String)
    (n : Nat)
    (message : String) :
    errorAt name f (some n) message =
      (errorAt name g (some 1) message).atLine n := by
  unfold errorAt Violation.atLine
  rw [hPath]

/-
  Such a rule may look at the path of the file, and at the
  number of a line only to report it.
-/
theorem lineByLine_perLine
    {name description : String}
    {test :
      RuleSettings → SourceFile → Nat → List Char → List Violation}
    (hTest : ∀ s f g n line, f.path = g.path →
      test s f n line = (test s g 1 line).map (·.atLine n)) :
    LineByLine ⟨name, description, fun s f => perLine (test s f) f⟩ := by
  intro s f
  unfold perLine
  refine List.flatMap_congr fun l hLine => ?_
  dsimp only
  rw [numberedLines_singleLine (newline_not_mem hLine),
    List.flatMap_singleton]
  exact hTest s f (singleLine f.path l.2) l.1 l.2 rfl

theorem lineByLine_of_mem (hRule : rule ∈ lineRules) :
    LineByLine rule := by
  simp only [lineRules, List.mem_cons, List.not_mem_nil, or_false]
    at hRule
  rcases hRule with rfl | rfl | rfl | rfl | rfl
  · unfold lineLength
    refine lineByLine_perLine fun s f g n line hPath => ?_
    split
    · rw [errorAt_some hPath]
      rfl
    · rfl
  · unfold trailingWhitespace
    refine lineByLine_perLine fun s f g n line hPath => ?_
    split
    · rw [errorAt_some hPath]
      rfl
    · rfl
  · unfold tabCharacter
    refine lineByLine_perLine fun s f g n line hPath => ?_
    split
    · rw [errorAt_some hPath]
      rfl
    · rfl
  · unfold todoComment
    refine lineByLine_perLine fun s f g n line hPath => ?_
    split
    · rw [hPath]
      rfl
    · rfl
  · unfold forbiddenPattern
    refine lineByLine_perLine fun s f g n line hPath => ?_
    rw [List.map_filterMap]
    congr 1
    funext p
    split
    · rw [errorAt_some hPath]
      rfl
    · rfl

------------------------------------------------------------
-- Lines Around a Line
------------------------------------------------------------

/-
  The number of newlines of a text, which is the number of its
  lines if the last of them is ended.
-/
def newlines (a : String) : Nat :=
  a.toList.count '\n'

/- What a rule finds in the line of a number. -/
def findingsAt
    (rule : Rule)
    (s : RuleSettings)
    (f : SourceFile)
    (n : Nat) : List Violation :=
  (rule.check s f).filter fun v => v.line = some n

theorem numberedLines_append
    (hEnds : EndsLine a.toList)
    (path b : String) :
    numberedLines ⟨path, a ++ b⟩ =
      numberedLines ⟨path, a⟩ ++
        (numberedLines ⟨path, b⟩).map fun l => (l.1 + newlines a, l.2) := by
  unfold numberedLines newlines
  dsimp only
  rw [String.toList_append, linesOf_append hEnds, numberFrom_append,
    length_linesOf hEnds, numberFrom_add]

/- The numbers of lines begin with one and end with the last newline. -/
theorem mem_numberedLines_bounds
    {f : SourceFile}
    {n : Nat}
    {line : List Char}
    (hLine : (n, line) ∈ numberedLines f) :
    0 < n ∧ (EndsLine f.content.toList → n ≤ newlines f.content) := by
  have hNumber :
      n ∈ (numberFrom 1 (linesOf f.content.toList)).map (·.1) :=
    List.mem_map.mpr ⟨(n, line), hLine, rfl⟩
  rw [map_fst_numberFrom, List.mem_range'_1] at hNumber
  refine ⟨hNumber.1, fun hEnds => ?_⟩
  unfold newlines
  rw [← length_linesOf hEnds]
  omega

namespace LineByLine

/- Each finding is about a line of the file. -/
theorem exists_line
    (hRule : LineByLine rule)
    {f : SourceFile}
    {v : Violation}
    (hFinding : v ∈ rule.check s f) :
    ∃ n line, (n, line) ∈ numberedLines f ∧ v.line = some n := by
  rw [hRule] at hFinding
  rcases List.mem_flatMap.mp hFinding with ⟨l, hLine, hMapped⟩
  rcases List.mem_map.mp hMapped with ⟨w, -, rfl⟩
  exact ⟨l.1, l.2, hLine, rfl⟩

/- Findings in two texts are those in one and those in the other. -/
theorem check_append
    (hRule : LineByLine rule)
    (s : RuleSettings)
    (path : String)
    (hEnds : EndsLine a.toList)
    (b : String) :
    rule.check s ⟨path, a ++ b⟩ =
      rule.check s ⟨path, a⟩ ++
        (rule.check s ⟨path, b⟩).map (·.movedDown (newlines a)) := by
  rw [hRule s ⟨path, a ++ b⟩, hRule s ⟨path, a⟩, hRule s ⟨path, b⟩]
  unfold perLine
  rw [numberedLines_append hEnds, List.flatMap_append,
    List.flatMap_map, List.map_flatMap]
  congr 1
  refine List.flatMap_congr fun l _ => ?_
  rw [List.map_map]
  exact List.map_congr_left fun v _ =>
    (Violation.movedDown_atLine l.1 (newlines a) v).symm

/- What follows a line does not matter. -/
theorem findingsAt_append_of_le
    (hRule : LineByLine rule)
    (s : RuleSettings)
    (path : String)
    (hEnds : EndsLine a.toList)
    (b : String)
    {n : Nat}
    (hLe : n ≤ newlines a) :
    findingsAt rule s ⟨path, a ++ b⟩ n =
      findingsAt rule s ⟨path, a⟩ n := by
  have hNone :
      ((rule.check s ⟨path, b⟩).map (·.movedDown (newlines a))).filter
        (fun v => v.line = some n) = [] := by
    rw [List.filter_eq_nil_iff]
    intro v hMoved hAt
    rcases List.mem_map.mp hMoved with ⟨w, hFinding, rfl⟩
    rcases hRule.exists_line hFinding with ⟨m, line, hLine, hNumber⟩
    have hPos := (mem_numberedLines_bounds hLine).1
    have hSame := of_decide_eq_true hAt
    unfold Violation.movedDown at hSame
    rw [hNumber, Option.map_some, Option.some.injEq] at hSame
    omega
  unfold findingsAt
  rw [hRule.check_append s path hEnds, List.filter_append, hNone,
    List.append_nil]

/- What stands in front of a line only matters for its number. -/
theorem findingsAt_append_add
    (hRule : LineByLine rule)
    (s : RuleSettings)
    (path : String)
    (hEnds : EndsLine a.toList)
    (b : String)
    {n : Nat}
    (hPos : 0 < n) :
    findingsAt rule s ⟨path, a ++ b⟩ (newlines a + n) =
      (findingsAt rule s ⟨path, b⟩ n).map
        (·.movedDown (newlines a)) := by
  have hNone :
      (rule.check s ⟨path, a⟩).filter
        (fun v => v.line = some (newlines a + n)) = [] := by
    rw [List.filter_eq_nil_iff]
    intro v hFinding hAt
    rcases hRule.exists_line hFinding with ⟨m, line, hLine, hNumber⟩
    have hLe := (mem_numberedLines_bounds hLine).2 hEnds
    have hSame := of_decide_eq_true hAt
    rw [hNumber, Option.some.injEq] at hSame
    dsimp only at hLe
    omega
  unfold findingsAt
  rw [hRule.check_append s path hEnds, List.filter_append, hNone,
    List.nil_append, List.filter_map]
  congr 1
  refine List.filter_congr fun v _ => ?_
  exact decide_eq_decide.mpr Violation.movedDown_line_iff

end LineByLine

/-
  What is found in two texts, of which the first ends a line,
  is what is found in each of them, with the second moved down
  by the lines of the first.  So nothing that follows a line
  matters for what is found in it, and if a part of the text
  in front of it is replaced, only its number may change.
-/
theorem lineRules_local
    (hRule : rule ∈ lineRules)
    (s : RuleSettings)
    (path : String)
    (hEnds : EndsLine a.toList)
    (b : String) :
    rule.check s ⟨path, a ++ b⟩ =
      rule.check s ⟨path, a⟩ ++
        (rule.check s ⟨path, b⟩).map (·.movedDown (newlines a)) ∧
    (∀ n, n ≤ newlines a →
      findingsAt rule s ⟨path, a ++ b⟩ n =
        findingsAt rule s ⟨path, a⟩ n) ∧
    ∀ old new, EndsLine old.toList → EndsLine new.toList →
      ∀ n, 0 < n →
        (findingsAt rule s ⟨path, a ++ old ++ b⟩
            (newlines (a ++ old) + n)).map (·.atLine n) =
          (findingsAt rule s ⟨path, a ++ new ++ b⟩
            (newlines (a ++ new) + n)).map (·.atLine n) := by
  have hLines := lineByLine_of_mem hRule
  refine ⟨hLines.check_append s path hEnds b,
    fun n hLe => hLines.findingsAt_append_of_le s path hEnds b hLe, ?_⟩
  intro old new hOld hNew n hPos
  -- Both sides are what is found in the text behind, at the same number.
  have hFront :
      ∀ front, EndsLine front.toList →
        (findingsAt rule s ⟨path, a ++ front ++ b⟩
            (newlines (a ++ front) + n)).map (·.atLine n) =
          (findingsAt rule s ⟨path, b⟩ n).map (·.atLine n) := by
    intro front hFrontEnds
    have hBoth : EndsLine (a ++ front).toList := by
      rw [String.toList_append]
      exact hEnds.append hFrontEnds
    rw [hLines.findingsAt_append_add s path hBoth b hPos, List.map_map]
    exact List.map_congr_left fun v _ =>
      Violation.atLine_movedDown n (newlines (a ++ front)) v
  rw [hFront old hOld, hFront new hNew]

end Quality

namespace Sample

/- Settings without a header and without patterns. -/
def plainSettings : RuleSettings where
  sources := []
  maxLineLength := 120
  header := none
  forbidden := []
  suppressions := []

end Sample

/- A tab stays where it is, in whichever line that is. -/
theorem Quality.sample_lineRules_local :
    let front := "// first\x0D\n"
    let back := "\tlast"
    let tabAtLine (n : Nat) : Violation :=
      errorAt "tab-character" ⟨"src/lib.rs", ""⟩ (some n)
        "Line contains a tab character (column 1)"
    tabCharacter ∈ lineRules ∧ EndsLine front.toList ∧
      tabCharacter.check Sample.plainSettings
        ⟨"src/lib.rs", front ++ back⟩ = [tabAtLine 2] ∧
      (findingsAt tabCharacter Sample.plainSettings
        ⟨"src/lib.rs", front ++ "x\n" ++ back⟩ 3).map (·.atLine 1) =
          [tabAtLine 1] ∧
      (findingsAt tabCharacter Sample.plainSettings
        ⟨"src/lib.rs", front ++ "\n\n" ++ back⟩ 4).map (·.atLine 1) =
          [tabAtLine 1] := by
  intro front back tabAtLine
  have hRule : tabCharacter ∈ lineRules := .tail _ (.tail _ (.head _))
  have hEnds : EndsLine front.toList := by decide
  rcases lineRules_local hRule Sample.plainSettings "src/lib.rs" hEnds
      back with
    ⟨hSplit, -, hEdit⟩
  have hOld : newlines (front ++ "x\n") = 2 := by decide
  have hNew : newlines (front ++ "\n\n") = 3 := by decide
  have hSame :=
    hEdit "x\n" "\n\n" (by decide) (by decide) 1 (by decide)
  rw [hOld, hNew] at hSame
  have hFound :
      (findingsAt tabCharacter Sample.plainSettings
        ⟨"src/lib.rs", front ++ "x\n" ++ back⟩ 3).map (·.atLine 1) =
          [tabAtLine 1] := by
    decide +kernel
  refine ⟨hRule, hEnds, ?_, hFound, hSame.symm.trans hFound⟩
  rw [hSplit]
  decide +kernel

------------------------------------------------------------
-- Line Ends
------------------------------------------------------------

namespace Quality

variable {rule : Rule}

/- The last line of a file must be ended, if there is one. -/
theorem check_finalNewline
    (s : RuleSettings)
    (f : SourceFile) :
    finalNewline.check s f =
      if EndsLine f.content.toList then
        []
      else
        [errorAt "final-newline" f none
          "File does not end with a newline"] := by
  unfold finalNewline EndsLine
  simp only [String.toList_eq_nil_iff]

/-
  A text with carriage returns before its newlines, and with
  none before, has the findings that it had.
-/
theorem lineRules_ignore_returns
    (hRule : rule ∈ finalNewline :: lineRules)
    (s : RuleSettings)
    (path : String)
    {text : String}
    (hPlain : ¬ ['\x0D', '\n'] <:+: text.toList) :
    rule.check s ⟨path, Text.replaceAll text "\n" "\x0D\n"⟩ =
      rule.check s ⟨path, text⟩ := by
  have hReplaced :
      (Text.replaceAll text "\n" "\x0D\n").toList =
        Text.replaceFrom ['\n'] ['\x0D', '\n'] 0 text.toList :=
    Text.toList_replaceAll text "\n" "\x0D\n"
  rcases List.mem_cons.mp hRule with rfl | hLineRule
  · rw [check_finalNewline, check_finalNewline]
    simp only [hReplaced, endsLine_replaceFrom_iff]
    rfl
  · rw [lineByLine_of_mem hLineRule s ⟨path, _⟩,
      lineByLine_of_mem hLineRule s ⟨path, text⟩]
    unfold perLine numberedLines
    dsimp only
    rw [hReplaced, linesOf_replaceFrom hPlain]

end Quality

/- A carriage return inside a line is a character of the line. -/
theorem Quality.sample_lineRules_ignore_returns :
    let text := "one\x0Dtwo \nthree\x0D"
    finalNewline ∈ finalNewline :: lineRules ∧
      trailingWhitespace ∈ finalNewline :: lineRules ∧
      ¬ ['\x0D', '\n'] <:+: text.toList ∧
      (finalNewline.check Sample.plainSettings
        ⟨"src/lib.rs", "one\x0Dtwo \x0D\nthree\x0D"⟩).length = 1 ∧
      (trailingWhitespace.check Sample.plainSettings
        ⟨"src/lib.rs", "one\x0Dtwo \x0D\nthree\x0D"⟩).map (·.line) =
          [some 1] := by
  intro text
  have hFinal : finalNewline ∈ finalNewline :: lineRules := .head _
  have hTrailing : trailingWhitespace ∈ finalNewline :: lineRules :=
    .tail _ (.tail _ (.head _))
  have hPlain : ¬ ['\x0D', '\n'] <:+: text.toList := by decide
  have hReplaced :
      Text.replaceAll text "\n" "\x0D\n" =
        "one\x0Dtwo \x0D\nthree\x0D" := by
    decide +kernel
  rw [← hReplaced]
  refine ⟨hFinal, hTrailing, hPlain, ?_, ?_⟩
  · rw [lineRules_ignore_returns hFinal Sample.plainSettings
      "src/lib.rs" hPlain]
    decide +kernel
  · rw [lineRules_ignore_returns hTrailing Sample.plainSettings
      "src/lib.rs" hPlain]
    decide +kernel

end ReleasePipeline
