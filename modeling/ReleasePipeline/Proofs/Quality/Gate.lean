import Mathlib.Data.List.Perm.Basic
import ReleasePipeline.Proofs.Host.Actions
import ReleasePipeline.Proofs.Quality.Discovery

/-
  This file proves that the quality gate is exact.  It reports
  the findings of every rule in every file that is looked at,
  without those that are suppressed, and loses or repeats
  none; it passes only if nothing is left to report.

  Key definitions include:
    * `QualityConfig.Suppresses`
    * `Violation.InOrder`
    * `Gate.SourceOf`

  Main declarations:
    * `mapM_eq_ok_iff`
    * `RuleSettings.suppresses_iff`
    * `Quality.name_check`
    * `Quality.run_perm`, `Quality.run_inOrder`
    * `Gate.reports_exactly`
-/

------------------------------------------------------------
-- Lists of Results
------------------------------------------------------------

namespace ReleasePipeline

/- A step for each element succeeds if each step does. -/
theorem mapM_eq_ok_iff
    {ε α β : Type}
    {step : α → Except ε β}
    {as : List α}
    {bs : List β} :
    as.mapM step = .ok bs ↔
      List.Forall₂ (fun a b => step a = .ok b) as bs := by
  induction as generalizing bs with
  | nil =>
      rw [List.mapM_nil, List.forall₂_nil_left_iff]
      constructor
      · intro hPure
        cases hPure
        rfl
      · rintro rfl
        rfl
  | cons a as ih =>
      rw [List.mapM_cons, List.forall₂_cons_left_iff]
      constructor
      · intro hAll
        rcases Except.bind_eq_ok hAll with ⟨b, hFirst, hRest⟩
        rcases Except.bind_eq_ok hRest with ⟨bs', hOthers, hPure⟩
        cases hPure
        exact ⟨b, bs', hFirst, ih.mp hOthers, rfl⟩
      · rintro ⟨b, bs', hFirst, hOthers, rfl⟩
        rw [hFirst, ih.mpr hOthers]
        rfl

theorem exists_mapM_eq_ok
    {ε α β : Type}
    {step : α → Except ε β}
    {as : List α}
    (hEach : ∀ a ∈ as, ∃ b, step a = .ok b) :
    ∃ bs, as.mapM step = .ok bs := by
  induction as with
  | nil => exact ⟨[], rfl⟩
  | cons a as ih =>
      rcases hEach a List.mem_cons_self with ⟨b, hFirst⟩
      rcases ih fun a' hMember =>
          hEach a' (List.mem_cons_of_mem a hMember) with
        ⟨bs, hOthers⟩
      refine ⟨b :: bs, ?_⟩
      rw [List.mapM_cons, hFirst, hOthers]
      rfl

------------------------------------------------------------
-- Suppressions
------------------------------------------------------------

/-
  A configuration suppresses a rule in a file if it has an
  entry for this rule, or for all, with a glob that matches
  the path of the file.
-/
def QualityConfig.Suppresses
    (c : QualityConfig)
    (rule file : String) : Prop :=
  ∃ x ∈ c.suppressions,
    (x.rule = rule ∨ x.rule = "*") ∧
      ∃ pattern,
        Glob.parse x.files = .ok pattern ∧
          Glob.accepts pattern file = true

theorem readSuppression_eq_ok_iff
    {x : Suppression}
    {entry : String × Glob.Pattern} :
    readSuppression x = .ok entry ↔
      entry.1 = x.rule ∧ Glob.parse x.files = .ok entry.2 := by
  rcases entry with ⟨rule, pattern⟩
  unfold readSuppression readGlob
  cases Glob.parse x.files with
  | error f => simp
  | ok p => simp [eq_comm]

/- What the settings take over from a configuration. -/
theorem QualityConfig.compile_eq_ok
    {c : QualityConfig}
    {s : RuleSettings}
    (hCompile : c.compile = .ok s) :
    s.sources = c.sources ∧ s.maxLineLength = c.maxLineLength ∧
      s.header = c.header ∧
      List.Forall₂ (fun x p => readForbidden x = .ok p)
        c.forbiddenPatterns s.forbidden ∧
      List.Forall₂ (fun x entry => readSuppression x = .ok entry)
        c.suppressions s.suppressions := by
  rcases Except.bind_eq_ok hCompile with
    ⟨forbidden, hForbidden, hRest⟩
  rcases Except.bind_eq_ok hRest with
    ⟨suppressions, hSuppressions, hPure⟩
  cases hPure
  exact ⟨rfl, rfl, rfl, mapM_eq_ok_iff.mp hForbidden,
    mapM_eq_ok_iff.mp hSuppressions⟩

/- The settings suppress what the configuration does. -/
theorem RuleSettings.suppresses_iff
    {c : QualityConfig}
    {s : RuleSettings}
    (hCompile : c.compile = .ok s)
    (rule file : String) :
    s.suppresses rule file = true ↔ c.Suppresses rule file := by
  rcases QualityConfig.compile_eq_ok hCompile with
    ⟨-, -, -, -, hEntries⟩
  unfold suppresses QualityConfig.Suppresses
  generalize s.suppressions = entries at hEntries
  generalize c.suppressions = xs at hEntries
  induction hEntries with
  | nil => simp
  | cons hFirst hOthers ih =>
      rcases readSuppression_eq_ok_iff.mp hFirst with ⟨hRule, hGlob⟩
      rw [List.any_cons, Bool.or_eq_true, ih]
      simp only [List.mem_cons, exists_eq_or_imp, hRule, hGlob,
        Except.ok.injEq, exists_eq_left', Bool.and_eq_true,
        Bool.or_eq_true, beq_iff_eq, or_comm]

------------------------------------------------------------
-- Findings
------------------------------------------------------------

/- The order of findings: by file, by line and by rule. -/
def Violation.InOrder (v w : Violation) : Prop :=
  v.file < w.file ∨
    v.file = w.file ∧
      (Quality.lineRank v.line < Quality.lineRank w.line ∨
        Quality.lineRank v.line = Quality.lineRank w.line ∧
          v.rule ≤ w.rule)

namespace Quality

theorem notAfter_iff (v w : Violation) :
    notAfter v w = true ↔ v.InOrder w := by
  unfold notAfter Violation.InOrder
  by_cases hFile : v.file = w.file
  · have hNotLess : ¬ v.file < w.file := by
      rw [hFile]
      exact String.lt_irrefl _
    rw [if_pos hFile, or_iff_right hNotLess, and_iff_right hFile]
    by_cases hLine : lineRank v.line = lineRank w.line
    · have hNotFewer : ¬ lineRank v.line < lineRank w.line := by
        rw [hLine]
        exact Nat.lt_irrefl _
      rw [if_pos hLine, or_iff_right hNotFewer, and_iff_right hLine,
        decide_eq_true_eq]
    · rw [if_neg hLine, decide_eq_true_eq]
      exact ⟨.inl, fun h => h.resolve_right fun hSame => hLine hSame.1⟩
  · rw [if_neg hFile, decide_eq_true_eq]
    exact ⟨.inl, fun h => h.resolve_right fun hSame => hFile hSame.1⟩

end Quality

namespace Violation

theorem InOrder.trans
    {u v w : Violation}
    (hFirst : u.InOrder v)
    (hSecond : v.InOrder w) :
    u.InOrder w := by
  rcases hFirst with hFile | ⟨hFile, hLine | ⟨hLine, hRule⟩⟩
  · rcases hSecond with hFile' | ⟨hFile', -⟩
    · exact .inl (String.lt_trans hFile hFile')
    · exact .inl (hFile' ▸ hFile)
  · rcases hSecond with hFile' | ⟨hFile', hLine' | ⟨hLine', -⟩⟩
    · exact .inl (hFile ▸ hFile')
    · exact .inr ⟨hFile.trans hFile', .inl (Nat.lt_trans hLine hLine')⟩
    · exact .inr ⟨hFile.trans hFile', .inl (hLine' ▸ hLine)⟩
  · rcases hSecond with hFile' | ⟨hFile', hLine' | ⟨hLine', hRule'⟩⟩
    · exact .inl (hFile ▸ hFile')
    · exact .inr ⟨hFile.trans hFile', .inl (hLine ▸ hLine')⟩
    · exact .inr ⟨hFile.trans hFile',
        .inr ⟨hLine.trans hLine', String.le_trans hRule hRule'⟩⟩

theorem InOrder.total (v w : Violation) :
    v.InOrder w ∨ w.InOrder v := by
  unfold InOrder
  by_cases hFile : v.file = w.file
  · rcases Nat.lt_trichotomy (Quality.lineRank v.line)
        (Quality.lineRank w.line) with
      hLess | hSame | hMore
    · exact .inl (.inr ⟨hFile, .inl hLess⟩)
    · rcases String.le_total v.rule w.rule with hRule | hRule
      · exact .inl (.inr ⟨hFile, .inr ⟨hSame, hRule⟩⟩)
      · exact .inr (.inr ⟨hFile.symm, .inr ⟨hSame.symm, hRule⟩⟩)
    · exact .inr (.inr ⟨hFile.symm, .inl hMore⟩)
  · by_cases hLess : v.file < w.file
    · exact .inl (.inl hLess)
    · refine .inr (.inl (String.not_le.mp fun hLe => ?_))
      exact hFile (String.le_antisymm hLe (String.not_lt.mp hLess))

end Violation

namespace Quality

/- Findings that name a rule and a file. -/
def Name
    (rule file : String)
    (vs : List Violation) : Prop :=
  ∀ v ∈ vs, v.rule = rule ∧ v.file = file

theorem name_nil (rule file : String) : Name rule file [] :=
  nofun

theorem name_singleton
    {rule file : String}
    {v : Violation}
    (hRule : v.rule = rule)
    (hFile : v.file = file) :
    Name rule file [v] := by
  intro w hMember
  rw [List.mem_singleton.mp hMember]
  exact ⟨hRule, hFile⟩

theorem name_perLine
    {rule file : String}
    {test : Nat → List Char → List Violation}
    (hTest : ∀ n line, Name rule file (test n line))
    (f : SourceFile) :
    Name rule file (perLine test f) := by
  intro v hMember
  rcases List.mem_flatMap.mp hMember with ⟨line, -, hFinding⟩
  exact hTest line.1 line.2 v hFinding

/- A finding names its rule and the file that was looked at. -/
theorem name_check
    {rule : Rule}
    (hRule : rule ∈ ruleset)
    (s : RuleSettings)
    (f : SourceFile) :
    Name rule.name f.path (rule.check s f) := by
  simp only [ruleset, List.mem_cons, List.not_mem_nil, or_false]
    at hRule
  rcases hRule with rfl | rfl | rfl | rfl | rfl | rfl | rfl
  · unfold lineLength
    dsimp only
    refine name_perLine (fun n line => ?_) f
    split
    · exact name_singleton rfl rfl
    · exact name_nil _ _
  · unfold trailingWhitespace
    dsimp only
    refine name_perLine (fun n line => ?_) f
    split
    · exact name_singleton rfl rfl
    · exact name_nil _ _
  · unfold tabCharacter
    dsimp only
    refine name_perLine (fun n line => ?_) f
    split
    · exact name_singleton rfl rfl
    · exact name_nil _ _
  · unfold finalNewline
    dsimp only
    split
    · exact name_nil _ _
    · exact name_singleton rfl rfl
  · unfold todoComment
    dsimp only
    refine name_perLine (fun n line => ?_) f
    split
    · exact name_singleton rfl rfl
    · exact name_nil _ _
  · unfold fileHeader
    dsimp only
    split
    · exact name_nil _ _
    · split
      · exact name_nil _ _
      · exact name_singleton rfl rfl
  · unfold forbiddenPattern
    dsimp only
    refine name_perLine (fun n line => ?_) f
    intro v hMember
    rcases List.mem_filterMap.mp hMember with ⟨p, -, hFinding⟩
    split at hFinding
    · cases hFinding
      exact ⟨rfl, rfl⟩
    · cases hFinding

/- Whether a finding is suppressed can be told from itself. -/
theorem isSuppressed_iff
    {c : QualityConfig}
    {s : RuleSettings}
    (hCompile : c.compile = .ok s)
    {f : SourceFile}
    {v : Violation}
    (hMember : v ∈ allFindings ruleset s f) :
    isSuppressed s f v = true ↔ c.Suppresses v.rule v.file := by
  rcases List.mem_flatMap.mp hMember with ⟨rule, hRule, hFinding⟩
  rw [(name_check hRule s f v hFinding).2, isSuppressed,
    RuleSettings.suppresses_iff hCompile]

/- What is reported and what is suppressed make up all findings. -/
theorem run_perm
    (rules : List Rule)
    (name : String)
    (s : RuleSettings)
    (files : List SourceFile) :
    ((run rules name s files).violations ++
        files.flatMap (suppressedFindings rules s)).Perm
      (files.flatMap (allFindings rules s)) := by
  have hSorted :
      (run rules name s files).violations.Perm
        (files.flatMap (findings rules s)) :=
    List.mergeSort_perm _ _
  refine (hSorted.append_right _).trans ?_
  refine (List.flatMap_append_perm files _ _).trans ?_
  refine List.Perm.flatMap_left files fun f _ => ?_
  refine List.perm_append_comm.trans ?_
  exact List.filter_append_perm _ _

theorem run_inOrder
    (rules : List Rule)
    (name : String)
    (s : RuleSettings)
    (files : List SourceFile) :
    (run rules name s files).violations.Pairwise
      Violation.InOrder := by
  have hSorted :
      (run rules name s files).violations.Pairwise
        fun v w => notAfter v w = true := by
    apply List.pairwise_mergeSort
    · intro u v w hFirst hSecond
      rw [notAfter_iff] at hFirst hSecond ⊢
      exact hFirst.trans hSecond
    · intro v w
      rw [Bool.or_eq_true, notAfter_iff, notAfter_iff]
      exact Violation.InOrder.total v w
  exact hSorted.imp fun hNotAfter => (notAfter_iff _ _).mp hNotAfter

/- A file that is not suppressed keeps its findings, and no other. -/
theorem not_suppresses_of_mem_run
    {c : QualityConfig}
    {s : RuleSettings}
    (hCompile : c.compile = .ok s)
    {name : String}
    {files : List SourceFile} :
    ∀ v ∈ (run ruleset name s files).violations,
      ¬ c.Suppresses v.rule v.file := by
  intro v hMember
  have hFound := (List.mergeSort_perm _ _).subset hMember
  rcases List.mem_flatMap.mp hFound with ⟨f, -, hFinding⟩
  rcases List.mem_filter.mp hFinding with ⟨hAll, hNot⟩
  rw [← isSuppressed_iff hCompile hAll]
  rw [Bool.not_eq_true'] at hNot
  rw [hNot]
  exact Bool.false_ne_true

theorem suppresses_of_mem_suppressed
    {c : QualityConfig}
    {s : RuleSettings}
    (hCompile : c.compile = .ok s)
    {files : List SourceFile} :
    ∀ v ∈ files.flatMap (suppressedFindings ruleset s),
      c.Suppresses v.rule v.file := by
  intro v hMember
  rcases List.mem_flatMap.mp hMember with ⟨f, -, hFinding⟩
  rcases List.mem_filter.mp hFinding with ⟨hAll, hSuppressed⟩
  exact (isSuppressed_iff hCompile hAll).mp hSuppressed

end Quality

------------------------------------------------------------
-- The Gate
------------------------------------------------------------

namespace Gate

/-
  What is looked at of a path: what is left of it below the
  root, and the text of its bytes.
-/
def SourceOf
    (t : FileTree)
    (root p : String)
    (f : SourceFile) : Prop :=
  ∃ bytes,
    t.read p = .ok bytes ∧
      f =
        { path := (Path.relativeTo? p root).getD p
          content := Utf8.decodeLossy bytes }

/- The failure of globs that match no file. -/
def noFiles
    (sources : List String)
    (root : String) : Fault :=
  .config (.invalidField "quality.sources"
    (", ".intercalate sources ++ s!" matched no files under {root}"))

variable {t : FileTree} {root : String}

theorem readSource_eq_ok_iff
    {p : String}
    {f : SourceFile} :
    readSource t root p = .ok f ↔ SourceOf t root p f := by
  unfold readSource SourceOf ioContext
  cases t.read p with
  | error e => simp
  | ok bytes => simp [eq_comm]

/- Regular files can be read. -/
theorem exists_readSource
    {p : String}
    (hFile : t.isFile p = true) :
    ∃ f, readSource t root p = .ok f := by
  unfold FileTree.isFile at hFile
  split at hFile
  · next bytes hNode =>
      have hRead : t.read p = .ok bytes := by
        unfold FileTree.read
        rw [hNode]
      exact ⟨_, readSource_eq_ok_iff.mpr ⟨bytes, hRead, rfl⟩⟩
  · cases hFile

theorem report_of_nil
    {s : RuleSettings}
    (hFound : discover t s root = .ok []) :
    report t s root = .error (noFiles s.sources root) := by
  unfold report
  rw [hFound]
  rfl

theorem report_of_ne_nil
    {s : RuleSettings}
    {paths : List String}
    (hFound : discover t s root = .ok paths)
    (hSome : paths ≠ [])
    {files : List SourceFile}
    (hFiles : paths.mapM (readSource t root) = .ok files) :
    report t s root =
      .ok (Quality.run Quality.ruleset rulesetName s files) := by
  unfold report
  rw [hFound]
  change (if paths = [] then _ else _) = _
  rw [if_neg hSome, hFiles]
  rfl

theorem evaluate_of_error
    {s : RuleSettings}
    {f : Fault}
    (hReport : report t s root = .error f) :
    evaluate t s root = .error f := by
  unfold evaluate
  rw [hReport]
  rfl

theorem evaluate_of_ok
    {s : RuleSettings}
    {r : QualityReport}
    (hReport : report t s root = .ok r) :
    evaluate t s root =
      if r.violations = [] then .ok r
      else .error (.release (.qualityGate r.violations)) := by
  unfold evaluate
  rw [hReport]
  change (if r.passed = true then _ else _) = _
  simp only [QualityReport.passed, List.isEmpty_iff]
  rfl

/-
  The gate is exact.  Without any file it fails.  Else it looks
  at the files that some glob matches, each once, and reports
  every finding of the rules that is not suppressed, with its
  multiplicity and in order; it passes only when there is none.
-/
theorem reports_exactly
    {c : QualityConfig}
    {s : RuleSettings}
    (hCompile : c.compile = .ok s)
    (hGlobs :
      ∀ g ∈ c.sources, ∃ paths,
        Glob.search t (fullPattern root g) = .ok paths) :
    ((∀ p, ¬ Matched t root c.sources p) →
      report t s root = .error (noFiles c.sources root) ∧
      evaluate t s root = .error (noFiles c.sources root)) ∧
    ((∃ p, Matched t root c.sources p) →
      ∃ paths files r dropped,
        Collects paths (Matched t root c.sources) ∧
        (paths.map Path.components).Nodup ∧
        List.Forall₂ (SourceOf t root) paths files ∧
        report t s root = .ok r ∧
        r.filesChecked = paths.length ∧
        (r.violations ++ dropped).Perm
          (files.flatMap fun f =>
            Quality.ruleset.flatMap fun rule => rule.check s f) ∧
        (∀ v ∈ r.violations, ¬ c.Suppresses v.rule v.file) ∧
        (∀ v ∈ dropped, c.Suppresses v.rule v.file) ∧
        r.suppressed = dropped.length ∧
        r.violations.Pairwise Violation.InOrder ∧
        evaluate t s root =
          if r.violations = [] then .ok r
          else .error (.release (.qualityGate r.violations))) := by
  have hSources := (QualityConfig.compile_eq_ok hCompile).1
  rw [← hSources] at hGlobs ⊢
  rcases discover_eq_ok hGlobs with ⟨paths, hFound, hCollects⟩
  constructor
  · intro hNone
    have hNil : paths = [] := by
      rw [List.eq_nil_iff_forall_not_mem]
      exact fun p hMember => hNone p (hCollects.sound p hMember)
    subst hNil
    have hReport := report_of_nil hFound
    exact ⟨hReport, evaluate_of_error hReport⟩
  · rintro ⟨p, hMatched⟩
    have hSome : paths ≠ [] := by
      rcases hCollects.complete p hMatched with ⟨q, hMember, -⟩
      exact List.ne_nil_of_mem hMember
    have hEach :
        ∀ q ∈ paths, ∃ f, readSource t root q = .ok f := by
      intro q hMember
      rcases hCollects.sound q hMember with ⟨g, -, found, -, -, hFile⟩
      exact exists_readSource hFile
    rcases exists_mapM_eq_ok hEach with ⟨files, hFiles⟩
    have hReport := report_of_ne_nil hFound hSome hFiles
    have hRead := mapM_eq_ok_iff.mp hFiles
    have hChecked :
        (Quality.run Quality.ruleset rulesetName s files).filesChecked =
          paths.length :=
      hRead.length_eq.symm
    exact ⟨paths, files, _,
      files.flatMap (Quality.suppressedFindings Quality.ruleset s),
      hCollects, hCollects.nodup,
      hRead.imp fun _ _ => readSource_eq_ok_iff.mp, hReport, hChecked,
      Quality.run_perm _ _ _ _,
      Quality.not_suppresses_of_mem_run hCompile,
      Quality.suppresses_of_mem_suppressed hCompile, rfl,
      Quality.run_inOrder _ _ _ _, evaluate_of_ok hReport⟩

end Gate

namespace Sample

/- A gate over some files, in which tabs are accepted. -/
def gateConfig : QualityConfig :=
  { QualityConfig.default with
    sources := ["*.rs", "a.*"]
    suppressions := [{ rule := "tab-character", files := "*.rs" }] }

def gateSettings : RuleSettings where
  sources := ["*.rs", "a.*"]
  maxLineLength := 120
  header := none
  forbidden := []
  suppressions :=
    [("tab-character",
      [.anyRun, .literal '.', .literal 'r', .literal 's'])]

/- A file that both globs match, with two findings. -/
def gateTree : FileTree where
  entries :=
    [(["p"], .directory), (["p", "a.rs"], .file (Utf8.encode "\t\n"))]
  workingDirectory := []

theorem search_gateTree :
    ∀ g ∈ gateConfig.sources,
      Glob.search gateTree (Gate.fullPattern "/p" g) =
        .ok ["/p/a.rs"] := by
  have hFound :
      ∀ g ∈ gateConfig.sources,
        (Glob.search gateTree (Gate.fullPattern "/p" g)).toOption =
          some ["/p/a.rs"] := by
    decide +kernel
  exact fun g hMember => Except.eq_ok_of_toOption (hFound g hMember)

end Sample

/- The tab is suppressed, but not the blank at the end of a line. -/
theorem Gate.sample_reports_exactly :
    Sample.gateConfig.compile = .ok Sample.gateSettings ∧
      ∃ paths r,
        Collects paths
          (Matched Sample.gateTree "/p" Sample.gateConfig.sources) ∧
        report Sample.gateTree Sample.gateSettings "/p" = .ok r ∧
        r.filesChecked = paths.length ∧
        evaluate Sample.gateTree Sample.gateSettings "/p" =
          .error (.release (.qualityGate r.violations)) := by
  have hCompile :
      Sample.gateConfig.compile = .ok Sample.gateSettings := rfl
  have hGlobs :
      ∀ g ∈ Sample.gateConfig.sources, ∃ paths,
        Glob.search Sample.gateTree (fullPattern "/p" g) =
          .ok paths :=
    fun g hMember => ⟨_, Sample.search_gateTree g hMember⟩
  have hMatched :
      Matched Sample.gateTree "/p" Sample.gateConfig.sources
        "/p/a.rs" :=
    ⟨_, List.mem_cons_self, _,
      Sample.search_gateTree _ List.mem_cons_self,
      List.mem_cons_self, by decide +kernel⟩
  have hFails :
      (evaluate Sample.gateTree Sample.gateSettings
        "/p").toOption = none := by
    decide +kernel
  rcases (reports_exactly hCompile hGlobs).2 ⟨"/p/a.rs", hMatched⟩ with
    ⟨paths, files, r, dropped, hCollects, -, -, hReport, hChecked, -, -,
      -, -, -, hEvaluate⟩
  refine ⟨hCompile, paths, r, hCollects, hReport, hChecked, ?_⟩
  split at hEvaluate
  · rw [hEvaluate] at hFails
    cases hFails
  · exact hEvaluate

end ReleasePipeline
