import Mathlib.Data.List.Perm.Basic
import ReleasePipeline.Proofs.Quality.Gate

/-
  This file proves that a report does not depend on how the
  work is done.  The files may come in any order, and may be
  divided among workers that each look at some consecutive
  ones and then join what they have found.  Findings are told
  apart by file, line and rule; those that are not stand in
  the order in which they were found, and all of them are
  found in one file.

  Key definitions include:
    * `Violation.Ties`
    * `Quality.Tally`, `Quality.Tally.join`
    * `Quality.Division`, `Quality.Division.tally`
    * `Quality.runDivided`

  Main declarations:
    * `filter_tied_mergeSort`
    * `eq_of_filter_tied`
    * `Quality.runDivided_eq_run`
    * `Quality.filter_ties_findings`
    * `Quality.report_independent`
-/

------------------------------------------------------------
-- Stable Sorting
------------------------------------------------------------

namespace ReleasePipeline

section Sorting

variable {α : Type}
variable {le : α → α → Bool}

/- Whether either of two elements may stand before the other. -/
def tied
    (le : α → α → Bool)
    (a b : α) : Bool :=
  le a b && le b a

/- Sorting leaves tied elements in the order that they had. -/
theorem filter_tied_mergeSort
    (hTrans : ∀ a b c, le a b → le b c → le a c)
    (hTotal : ∀ a b, le a b || le b a)
    (as : List α)
    (a : α) :
    (as.mergeSort le).filter (tied le a) = as.filter (tied le a) := by
  have hTied : (as.filter (tied le a)).Pairwise fun b c => le b c := by
    rw [List.pairwise_filter]
    refine List.pairwise_of_forall fun b c hFirst hSecond => ?_
    unfold tied at hFirst hSecond
    rw [Bool.and_eq_true] at hFirst hSecond
    exact hTrans b a c hFirst.2 hSecond.1
  have hKept :
      (as.filter (tied le a)).Sublist (as.mergeSort le) :=
    List.sublist_mergeSort hTrans hTotal hTied List.filter_sublist
  have hAgain := hKept.filter (tied le a)
  rw [List.filter_filter] at hAgain
  simp only [Bool.and_self] at hAgain
  have hLength := ((List.mergeSort_perm as le).filter (tied le a)).length_eq
  exact (hAgain.eq_of_length hLength.symm).symm

theorem tied_self
    (hTotal : ∀ a b, le a b || le b a)
    (a : α) :
    tied le a a = true := by
  have hLe := hTotal a a
  rw [Bool.or_self] at hLe
  unfold tied
  rw [hLe]
  rfl

/- The least element may stand before what the list ties with. -/
theorem le_head_of_filter_tied
    (hTotal : ∀ a b, le a b || le b a)
    {a b : α}
    {as bs : List α}
    (hLeast : ∀ c ∈ as, le a c)
    (hTies :
      (a :: as).filter (tied le b) = (b :: bs).filter (tied le b)) :
    le a b = true := by
  have hSelf := tied_self hTotal b
  have hMember : b ∈ (a :: as).filter (tied le b) := by
    rw [hTies, List.filter_cons_of_pos hSelf]
    exact List.mem_cons_self
  rcases List.mem_cons.mp (List.mem_filter.mp hMember).1 with
    rfl | hMember
  · unfold tied at hSelf
    rw [Bool.and_self] at hSelf
    exact hSelf
  · exact hLeast b hMember

/- Sorted lists are equal if they have the same ties. -/
theorem eq_of_filter_tied
    (hTotal : ∀ a b, le a b || le b a)
    {as bs : List α}
    (hFirst : as.Pairwise fun a b => le a b)
    (hSecond : bs.Pairwise fun a b => le a b)
    (hTies : ∀ a, as.filter (tied le a) = bs.filter (tied le a)) :
    as = bs := by
  have hSelf := tied_self hTotal
  induction as generalizing bs with
  | nil =>
      cases bs with
      | nil => rfl
      | cons b bs =>
          have hNone := hTies b
          rw [List.filter_cons_of_pos (hSelf b)] at hNone
          cases hNone
  | cons a as ih =>
      cases bs with
      | nil =>
          have hNone := hTies a
          rw [List.filter_cons_of_pos (hSelf a)] at hNone
          cases hNone
      | cons b bs =>
          have ⟨hLeast, hRest⟩ := List.pairwise_cons.mp hFirst
          have ⟨hLeast', hRest'⟩ := List.pairwise_cons.mp hSecond
          -- The two heads tie, and each of them stands first among
          -- what ties with it.
          have hTied : tied le a b = true := by
            unfold tied
            rw [le_head_of_filter_tied hTotal hLeast (hTies b),
              le_head_of_filter_tied hTotal hLeast' (hTies a).symm]
            rfl
          have hSame : a = b := by
            have hHeads := hTies a
            rw [List.filter_cons_of_pos (hSelf a),
              List.filter_cons_of_pos hTied] at hHeads
            exact (List.cons.inj hHeads).1
          subst hSame
          refine congrArg (a :: ·) (ih hRest hRest' fun c => ?_)
          have hTails := hTies c
          rw [List.filter_cons, List.filter_cons] at hTails
          split at hTails
          · exact (List.cons.inj hTails).2
          · exact hTails

/- Lists with the same ties are sorted in the same way. -/
theorem mergeSort_eq_of_filter_tied
    (hTrans : ∀ a b c, le a b → le b c → le a c)
    (hTotal : ∀ a b, le a b || le b a)
    {as bs : List α}
    (hTies : ∀ a, as.filter (tied le a) = bs.filter (tied le a)) :
    as.mergeSort le = bs.mergeSort le := by
  apply eq_of_filter_tied hTotal
    (List.pairwise_mergeSort hTrans hTotal as)
    (List.pairwise_mergeSort hTrans hTotal bs)
  intro a
  rw [filter_tied_mergeSort hTrans hTotal,
    filter_tied_mergeSort hTrans hTotal, hTies]

end Sorting

------------------------------------------------------------
-- Ties of Findings
------------------------------------------------------------

/- Findings of one rule in one line of one file. -/
def Violation.Ties (v w : Violation) : Prop :=
  v.file = w.file ∧ v.line = w.line ∧ v.rule = w.rule

instance (v w : Violation) : Decidable (v.Ties w) :=
  inferInstanceAs
    (Decidable (v.file = w.file ∧ v.line = w.line ∧ v.rule = w.rule))

namespace Quality

theorem lineRank_inj {m n : Option Nat} :
    lineRank m = lineRank n ↔ m = n := by
  cases m <;> cases n <;> simp [lineRank]

/- Either finding may stand before the other only if they tie. -/
theorem tied_notAfter (v : Violation) :
    tied notAfter v = fun w => decide (v.Ties w) := by
  funext w
  rw [Bool.eq_iff_iff, tied, Bool.and_eq_true, notAfter_iff,
    notAfter_iff, decide_eq_true_eq]
  unfold Violation.InOrder Violation.Ties
  rw [← lineRank_inj]
  constructor
  · rintro ⟨hFirst, hSecond⟩
    rcases hFirst with hFile | ⟨hFile, hFirst⟩
    · rcases hSecond with hFile' | ⟨hFile', -⟩
      · exact absurd (String.lt_trans hFile hFile') (String.lt_irrefl _)
      · rw [hFile'] at hFile
        exact absurd hFile (String.lt_irrefl _)
    · rcases hSecond with hFile' | ⟨-, hSecond⟩
      · rw [hFile] at hFile'
        exact absurd hFile' (String.lt_irrefl _)
      · rcases hFirst with hLine | ⟨hLine, hRule⟩
        · omega
        · rcases hSecond with hLine' | ⟨-, hRule'⟩
          · omega
          · exact ⟨hFile, hLine, String.le_antisymm hRule hRule'⟩
  · rintro ⟨hFile, hLine, hRule⟩
    rw [hFile, hLine, hRule]
    exact ⟨.inr ⟨rfl, .inr ⟨rfl, String.le_refl _⟩⟩,
      .inr ⟨rfl, .inr ⟨rfl, String.le_refl _⟩⟩⟩

theorem notAfter_trans
    (u v w : Violation)
    (hFirst : notAfter u v = true)
    (hSecond : notAfter v w = true) :
    notAfter u w = true := by
  rw [notAfter_iff] at hFirst hSecond ⊢
  exact hFirst.trans hSecond

theorem notAfter_total (v w : Violation) :
    (notAfter v w || notAfter w v) = true := by
  rw [Bool.or_eq_true, notAfter_iff, notAfter_iff]
  exact Violation.InOrder.total v w

------------------------------------------------------------
-- Divided Work
------------------------------------------------------------

/-
  What has been found so far: the findings that are reported,
  and how many are suppressed.
-/
structure Tally where
  kept : List Violation
  suppressed : Nat
deriving DecidableEq, Repr

namespace Tally

/- Nothing has been found. -/
def empty : Tally where
  kept := []
  suppressed := 0

/- What was found in files, and in those that follow them. -/
def join (t u : Tally) : Tally where
  kept := t.kept ++ u.kept
  suppressed := t.suppressed + u.suppressed

/- One more finding in a file. -/
def add
    (s : RuleSettings)
    (f : SourceFile)
    (t : Tally)
    (v : Violation) : Tally :=
  if isSuppressed s f v then
    { t with suppressed := t.suppressed + 1 }
  else
    { t with kept := t.kept ++ [v] }

theorem empty_join (t : Tally) : empty.join t = t := by
  simp [join, empty]

theorem join_empty (t : Tally) : t.join empty = t := by
  simp [join, empty]

theorem join_assoc (t u v : Tally) :
    (t.join u).join v = t.join (u.join v) := by
  simp [join, Nat.add_assoc]

/- The findings of a file, rule by rule, one after another. -/
def ofFile
    (rules : List Rule)
    (s : RuleSettings)
    (f : SourceFile) : Tally :=
  rules.foldl (fun t r => (r.check s f).foldl (add s f) t) empty

/- What all files together come to. -/
def ofFiles
    (rules : List Rule)
    (s : RuleSettings)
    (files : List SourceFile) : Tally where
  kept := files.flatMap (findings rules s)
  suppressed :=
    (files.flatMap (suppressedFindings rules s)).length

end Tally

/-
  How files are divided: some consecutive ones are looked at
  by one worker, or two parts of them are worked on apart.
-/
inductive Division where
  | chunk (files : List SourceFile)
  | parts (first second : Division)
deriving DecidableEq, Repr

namespace Division

/- The files in their order. -/
def files : Division → List SourceFile
  | .chunk files => files
  | .parts first second => first.files ++ second.files

/-
  A worker begins with nothing and joins what there is in each
  of its files; parts are joined in their order.
-/
def tally
    (rules : List Rule)
    (s : RuleSettings) : Division → Tally
  | .chunk files =>
      files.foldl (fun t f => t.join (.ofFile rules s f)) .empty
  | .parts first second =>
      (first.tally rules s).join (second.tally rules s)

end Division

/- Run rules over files that are divided among workers. -/
def runDivided
    (rules : List Rule)
    (name : String)
    (s : RuleSettings)
    (d : Division) : QualityReport where
  ruleset := name
  filesChecked := d.files.length
  suppressed := (d.tally rules s).suppressed
  violations := (d.tally rules s).kept.mergeSort notAfter

namespace Tally

variable {rules : List Rule} {s : RuleSettings}

theorem foldl_add
    (f : SourceFile)
    (vs : List Violation)
    (t : Tally) :
    vs.foldl (add s f) t =
      t.join
        { kept := vs.filter (!isSuppressed s f ·)
          suppressed := (vs.filter (isSuppressed s f)).length } := by
  induction vs generalizing t with
  | nil => exact (join_empty t).symm
  | cons v vs ih =>
      rw [List.foldl_cons, ih]
      cases hSuppressed : isSuppressed s f v with
      | false => simp [add, join, hSuppressed]
      | true =>
          simp [add, join, hSuppressed, Nat.add_assoc, Nat.add_comm 1]

/- The findings of a file are kept or counted, each of them. -/
theorem ofFile_eq
    (rules : List Rule)
    (s : RuleSettings)
    (f : SourceFile) :
    ofFile rules s f =
      { kept := findings rules s f
        suppressed := (suppressedFindings rules s f).length } := by
  have hFold (t : Tally) :
      rules.foldl (fun t r => (r.check s f).foldl (add s f) t) t =
        t.join
          { kept := findings rules s f
            suppressed :=
              (suppressedFindings rules s f).length } := by
    unfold findings suppressedFindings
      allFindings
    induction rules generalizing t with
    | nil => exact (join_empty t).symm
    | cons r rules ih =>
        rw [List.foldl_cons, ih, foldl_add, join_assoc,
          List.flatMap_cons, List.filter_append, List.filter_append,
          List.length_append]
        rfl
  unfold ofFile
  rw [hFold, empty_join]

theorem ofFiles_append (fs gs : List SourceFile) :
    ofFiles rules s (fs ++ gs) =
      (ofFiles rules s fs).join (ofFiles rules s gs) := by
  simp [ofFiles, join]

theorem ofFiles_singleton (f : SourceFile) :
    ofFiles rules s [f] = ofFile rules s f := by
  simp [ofFiles, ofFile_eq]

/- A worker that goes on with some files. -/
theorem foldl_ofFile
    (fs : List SourceFile)
    (t : Tally) :
    fs.foldl (fun t f => t.join (ofFile rules s f)) t =
      t.join (ofFiles rules s fs) := by
  induction fs generalizing t with
  | nil => exact (join_empty t).symm
  | cons f fs ih =>
      rw [List.foldl_cons, ih, join_assoc, ← ofFiles_singleton,
        ← ofFiles_append, List.singleton_append]

end Tally

/- However files are divided, they come to the same. -/
theorem Division.tally_eq
    (rules : List Rule)
    (s : RuleSettings)
    (d : Division) :
    d.tally rules s = .ofFiles rules s d.files := by
  induction d with
  | chunk files =>
      unfold tally
      rw [Tally.foldl_ofFile, Tally.empty_join]
      rfl
  | parts first second ihFirst ihSecond =>
      rw [tally, ihFirst, ihSecond, files, Tally.ofFiles_append]

theorem runDivided_eq_run
    (rules : List Rule)
    (name : String)
    (s : RuleSettings)
    (d : Division) :
    runDivided rules name s d = run rules name s d.files := by
  unfold runDivided
  rw [d.tally_eq]
  rfl

------------------------------------------------------------
-- Independence
------------------------------------------------------------

/- All findings of some rules name the file that they are from. -/
def NameFiles
    (rules : List Rule)
    (s : RuleSettings)
    (files : List SourceFile) : Prop :=
  ∀ f ∈ files, ∀ r ∈ rules, ∀ v ∈ r.check s f, v.file = f.path

/- The rules of the rule set do, in all files. -/
theorem nameFiles_ruleset
    (s : RuleSettings)
    (files : List SourceFile) :
    NameFiles ruleset s files := by
  intro f _ r hRule v hFinding
  exact (name_check hRule s f v hFinding).2

variable {rules : List Rule} {s : RuleSettings}
variable {files : List SourceFile}

theorem NameFiles.mono
    (hNamed : NameFiles rules s files)
    {fewer : List SourceFile}
    (hFewer : ∀ f ∈ fewer, f ∈ files) :
    NameFiles rules s fewer :=
  fun f hFile => hNamed f (hFewer f hFile)

/- A file has no finding that ties with one of another file. -/
theorem filter_ties_of_ne
    (hNamed : NameFiles rules s files)
    {f : SourceFile}
    (hFile : f ∈ files)
    {v : Violation}
    (hOther : f.path ≠ v.file) :
    (findings rules s f).filter (fun w => v.Ties w) = [] := by
  rw [List.filter_eq_nil_iff]
  intro w hFinding hTies
  rw [decide_eq_true_eq] at hTies
  rcases List.mem_flatMap.mp (List.mem_filter.mp hFinding).1 with
    ⟨r, hRule, hCheck⟩
  have hName := hNamed f hFile r hRule w hCheck
  exact hOther (hName.symm.trans hTies.1.symm)

/- Nothing ties with a finding of a file that is not there. -/
theorem filter_ties_findings_of_ne
    (hNamed : NameFiles rules s files)
    {v : Violation}
    (hNone : ∀ f ∈ files, f.path ≠ v.file) :
    (files.flatMap (findings rules s)).filter (fun w => v.Ties w) =
      [] := by
  rw [List.filter_flatMap, List.flatMap_eq_nil_iff]
  intro f hFile
  exact filter_ties_of_ne hNamed hFile (hNone f hFile)

/- What ties with a finding of a file is found in that file. -/
theorem filter_ties_findings
    (hPaths : (files.map (·.path)).Nodup)
    (hNamed : NameFiles rules s files)
    {f : SourceFile}
    (hFile : f ∈ files)
    {v : Violation}
    (hName : v.file = f.path) :
    (files.flatMap (findings rules s)).filter (fun w => v.Ties w) =
      (findings rules s f).filter fun w => v.Ties w := by
  rcases List.append_of_mem hFile with ⟨before, after, rfl⟩
  rw [List.map_append, List.map_cons, List.perm_middle.nodup_iff,
    List.nodup_cons, ← List.map_append] at hPaths
  have hOthers : ∀ g ∈ before ++ after, g.path ≠ v.file := by
    intro g hMember hSame
    rw [hName] at hSame
    exact hPaths.1 (List.mem_map.mpr ⟨g, hMember, hSame⟩)
  have hBefore :=
    filter_ties_findings_of_ne
      (hNamed.mono fun g hMember => List.mem_append_left _ hMember)
      fun g hMember => hOthers g (List.mem_append_left after hMember)
  have hAfter :=
    filter_ties_findings_of_ne
      (hNamed.mono fun g hMember =>
        List.mem_append_right before (List.mem_cons_of_mem f hMember))
      fun g hMember => hOthers g (List.mem_append_right before hMember)
  rw [List.flatMap_append, List.flatMap_cons, List.filter_append,
    List.filter_append, hBefore, hAfter, List.append_nil,
    List.nil_append]

/- The same files in another order have the same ties. -/
theorem filter_ties_perm
    (hPaths : (files.map (·.path)).Nodup)
    (hNamed : NameFiles rules s files)
    {others : List SourceFile}
    (hPerm : others.Perm files)
    (v : Violation) :
    (others.flatMap (findings rules s)).filter (fun w => v.Ties w) =
      (files.flatMap (findings rules s)).filter
        fun w => v.Ties w := by
  have hPaths' : (others.map (·.path)).Nodup :=
    (hPerm.map (·.path)).nodup_iff.mpr hPaths
  have hNamed' : NameFiles rules s others :=
    hNamed.mono fun _ hFile => hPerm.subset hFile
  by_cases hSome : ∃ f ∈ files, f.path = v.file
  · rcases hSome with ⟨f, hFile, hName⟩
    rw [filter_ties_findings hPaths hNamed hFile hName.symm,
      filter_ties_findings hPaths' hNamed' (hPerm.symm.subset hFile)
        hName.symm]
  · have hNone : ∀ f ∈ files, f.path ≠ v.file :=
      fun f hFile hName => hSome ⟨f, hFile, hName⟩
    rw [filter_ties_findings_of_ne hNamed hNone,
      filter_ties_findings_of_ne hNamed'
        fun f hFile => hNone f (hPerm.subset hFile)]

theorem run_of_perm
    (hPaths : (files.map (·.path)).Nodup)
    (hNamed : NameFiles rules s files)
    {others : List SourceFile}
    (hPerm : others.Perm files)
    (name : String) :
    run rules name s others = run rules name s files := by
  have hSuppressed :
      (others.flatMap (suppressedFindings rules s)).length =
        (files.flatMap (suppressedFindings rules s)).length :=
    (hPerm.flatMap_right _).length_eq
  have hViolations :
      (others.flatMap (findings rules s)).mergeSort notAfter =
        (files.flatMap (findings rules s)).mergeSort notAfter := by
    apply mergeSort_eq_of_filter_tied notAfter_trans notAfter_total
    intro v
    rw [tied_notAfter]
    exact filter_ties_perm hPaths hNamed hPerm v
  unfold run
  rw [hPerm.length_eq, hSuppressed, hViolations]

/-
  The report of some files is the same in whichever order they
  come and however they are divided among workers.  Findings
  of one rule in one line stand in the order in which the
  rules have found them.
-/
theorem report_independent
    (name : String)
    (hPaths : (files.map (·.path)).Nodup)
    (hNamed : NameFiles rules s files) :
    (∀ others : List SourceFile, others.Perm files →
      run rules name s others = run rules name s files) ∧
    (∀ d : Division, d.files.Perm files →
      runDivided rules name s d = run rules name s files) ∧
    ∀ f ∈ files, ∀ v : Violation, v.file = f.path →
      (run rules name s files).violations.filter
          (fun w => v.Ties w) =
        ((rules.flatMap fun r => r.check s f).filter
          fun w => !s.suppresses w.rule f.path).filter
            fun w => v.Ties w := by
  refine ⟨fun others hPerm => run_of_perm hPaths hNamed hPerm name,
    ?_, ?_⟩
  · intro d hPerm
    rw [runDivided_eq_run]
    exact run_of_perm hPaths hNamed hPerm name
  · intro f hFile v hName
    have hStable :=
      filter_tied_mergeSort notAfter_trans notAfter_total
        (files.flatMap (findings rules s)) v
    rw [tied_notAfter] at hStable
    exact hStable.trans
      (filter_ties_findings hPaths hNamed hFile hName)

end Quality

namespace Sample

/- Two patterns that no line may match. -/
def patternSettings : RuleSettings where
  sources := []
  maxLineLength := 120
  header := none
  forbidden :=
    ["y", "x"].filterMap fun text =>
      (Regex.parse? text).map fun regex => { text, regex }
  suppressions := []

/- A file with a line that matches both, and another file. -/
def patternFiles : List SourceFile :=
  [{ path := "a.rs", content := "xy\n" },
    { path := "b.rs", content := "y\n" }]

/- The second file first, and a worker that has no file. -/
def patternDivision : Quality.Division :=
  .parts (.chunk [{ path := "b.rs", content := "y\n" }])
    (.parts (.chunk []) (.chunk [{ path := "a.rs", content := "xy\n" }]))

/- What is found of a pattern in the first line of the first file. -/
def patternFinding (pattern : String) : Violation where
  rule := "forbidden-pattern"
  severity := .error
  file := "a.rs"
  line := some 1
  message := s!"Line matches forbidden pattern `{pattern}`"

end Sample

/-
  However the files are divided, the two findings in one line
  stand in the order of the patterns.
-/
theorem Quality.sample_report_independent :
    (Sample.patternFiles.map (·.path)).Nodup ∧
    NameFiles ruleset Sample.patternSettings Sample.patternFiles ∧
    runDivided ruleset rulesetName Sample.patternSettings
        Sample.patternDivision =
      run ruleset rulesetName Sample.patternSettings
        Sample.patternFiles ∧
    (run ruleset rulesetName Sample.patternSettings
          Sample.patternFiles).violations.filter
        (fun w => (Sample.patternFinding "x").Ties w) =
      [Sample.patternFinding "y", Sample.patternFinding "x"] := by
  have hPaths : (Sample.patternFiles.map (·.path)).Nodup := by decide
  have hNamed :
      NameFiles ruleset Sample.patternSettings Sample.patternFiles :=
    nameFiles_ruleset _ _
  have hPerm :
      Sample.patternDivision.files.Perm Sample.patternFiles := by
    decide
  rcases report_independent rulesetName hPaths hNamed with
    ⟨-, hDivided, hTies⟩
  refine ⟨hPaths, hNamed, hDivided _ hPerm, ?_⟩
  rw [hTies _ List.mem_cons_self _ rfl]
  decide +kernel

end ReleasePipeline
