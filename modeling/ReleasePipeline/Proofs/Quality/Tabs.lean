import ReleasePipeline.Proofs.Quality.LineRules
import ReleasePipeline.Proofs.Text.Utf8

/-
  This file proves which tabs are reported, and where.  Every
  line with a tab is reported once, for its first tab, and no
  tab of the file is lost between the lines.  The column is
  counted in bytes, so it is the place of the tab among the
  characters of the line only if those before it are in ASCII.

  Key definitions include:
    * `Quality.tabAt`

  Main declarations:
    * `Quality.mem_check_tabCharacter`
    * `Quality.check_tabCharacter_ne_nil_iff`
    * `Quality.tabCharacter_counts_bytes`
-/

------------------------------------------------------------
-- Findings of Tabs
------------------------------------------------------------

namespace ReleasePipeline

namespace Quality

variable {s : RuleSettings} {f : SourceFile}
variable {line before after : List Char} {n : Nat}

/- The finding of a tab in a column of a line. -/
def tabAt
    (f : SourceFile)
    (n column : Nat) : Violation :=
  errorAt "tab-character" f (some n)
    s!"Line contains a tab character (column {column})"

/- The column can be read off the message. -/
theorem tabAt_inj
    {column other : Nat}
    (hEq : tabAt f n column = tabAt f n other) :
    column = other := by
  have hMessage :
      "Line contains a tab character (column " ++ toString column ++ ")" =
        "Line contains a tab character (column " ++ toString other ++
          ")" :=
    congrArg Violation.message hEq
  rw [String.append_left_inj, String.append_right_inj] at hMessage
  have hDigits : Nat.toDigits 10 column = Nat.toDigits 10 other := by
    rw [← Nat.toList_repr, ← Nat.toList_repr]
    exact congrArg String.toList hMessage
  have hValue (m : Nat) :
      Nat.ofDigitChars 10 (Nat.toDigits 10 m) 0 = m :=
    Nat.ofDigitChars_toDigits (by decide) (Nat.le_refl 10)
  rw [← hValue column, hDigits, hValue]

/- The column of a tab is behind the bytes before it. -/
theorem tabColumn?_eq_some
    (hFirst : '\t' ∉ before)
    (after : List Char) :
    tabColumn? (before ++ '\t' :: after) =
      some (Utf8.width before + 1) := by
  have hContains :
      (before ++ '\t' :: after).contains '\t' = true :=
    List.contains_iff_mem.mpr (by simp)
  rw [tabColumn?, if_pos hContains, Text.takeWhile_append_cons hFirst]

/- At most one thing is said about a line. -/
theorem check_tabCharacter
    (s : RuleSettings)
    (f : SourceFile) :
    tabCharacter.check s f =
      perLine (fun n line =>
        if line.contains '\t' then
          [tabAt f n ((tabColumn? line).getD 0)]
        else
          []) f := by
  unfold tabCharacter
  dsimp only
  congr 1
  funext n line
  split
  · next column hColumn =>
      have hContains : line.contains '\t' = true := by
        by_contra hNot
        rw [tabColumn?, if_neg hNot] at hColumn
        cases hColumn
      rw [if_pos hContains, hColumn]
      rfl
  · next hColumn =>
      have hNot : ¬ line.contains '\t' = true := by
        intro hContains
        rw [tabColumn?, if_pos hContains] at hColumn
        cases hColumn
      rw [if_neg hNot]

/- What is found are the first tabs of the lines. -/
theorem mem_check_tabCharacter
    {v : Violation} :
    v ∈ tabCharacter.check s f ↔
      ∃ n before after, (n, before ++ '\t' :: after) ∈ numberedLines f ∧
        '\t' ∉ before ∧ v = tabAt f n (Utf8.width before + 1) := by
  rw [check_tabCharacter, mem_perLine_ite]
  constructor
  · rintro ⟨n, line, hLine, rfl, hContains⟩
    rcases List.eq_append_cons_of_mem (List.contains_iff_mem.mp hContains)
      with ⟨before, after, rfl, hFirst⟩
    refine ⟨n, before, after, hLine, hFirst, ?_⟩
    rw [tabColumn?_eq_some hFirst, Option.getD_some]
  · rintro ⟨n, before, after, hLine, hFirst, rfl⟩
    refine ⟨n, _, hLine, ?_, List.contains_iff_mem.mpr (by simp)⟩
    rw [tabColumn?_eq_some hFirst, Option.getD_some]

/- In a line with a tab there is one column that is reported. -/
theorem tabAt_mem_check_iff
    {column : Nat}
    (hLine : (n, before ++ '\t' :: after) ∈ numberedLines f)
    (hFirst : '\t' ∉ before) :
    tabAt f n column ∈ tabCharacter.check s f ↔
      column = Utf8.width before + 1 := by
  rw [mem_check_tabCharacter]
  constructor
  · rintro ⟨m, front, back, hOther, hMissing, hEq⟩
    have hNumber : n = m := Option.some.inj (congrArg Violation.line hEq)
    subst hNumber
    have hColumn := tabColumn?_eq_some hFirst after
    rw [eq_of_mem_numberedLines hLine hOther,
      tabColumn?_eq_some hMissing, Option.some.injEq] at hColumn
    rw [tabAt_inj hEq, hColumn]
  · rintro rfl
    exact ⟨n, before, after, hLine, hFirst, rfl⟩

/- Every tab of a file is in one of its lines. -/
theorem check_tabCharacter_ne_nil_iff :
    tabCharacter.check s f ≠ [] ↔ '\t' ∈ f.content.toList := by
  rw [mem_iff_mem_linesOf (by decide) (by decide)]
  constructor
  · intro hSome
    rcases List.exists_mem_of_ne_nil _ hSome with ⟨v, hFinding⟩
    rcases mem_check_tabCharacter.mp hFinding with
      ⟨n, before, after, hLine, -, -⟩
    exact ⟨_, mem_linesOf_iff.mpr ⟨n, hLine⟩, by simp⟩
  · rintro ⟨line, hLine, hTab⟩
    rcases mem_linesOf_iff.mp hLine with ⟨n, hNumbered⟩
    rcases List.eq_append_cons_of_mem hTab with
      ⟨before, after, rfl, hFirst⟩
    exact List.ne_nil_of_mem (mem_check_tabCharacter.mpr
      ⟨n, before, after, hNumbered, hFirst, rfl⟩)

/-
  The lines with a tab are reported, each of them once and in
  their order, and there are some if the file has a tab at
  all.  The column is one more than the number of bytes before
  the first tab of the line.  It is one more than the number
  of characters if and only if all of them are in ASCII.
-/
theorem tabCharacter_counts_bytes
    (s : RuleSettings)
    (f : SourceFile) :
    (tabCharacter.check s f).Pairwise Violation.Above ∧
    (∀ v, v ∈ tabCharacter.check s f ↔
      ∃ n before after, (n, before ++ '\t' :: after) ∈ numberedLines f ∧
        '\t' ∉ before ∧ v = tabAt f n (Utf8.width before + 1)) ∧
    (∀ n before after, (n, before ++ '\t' :: after) ∈ numberedLines f →
      '\t' ∉ before →
      (tabAt f n (before.length + 1) ∈ tabCharacter.check s f ↔
        ∀ c ∈ before, c.toNat < 0x80)) ∧
    (tabCharacter.check s f ≠ [] ↔ '\t' ∈ f.content.toList) := by
  refine ⟨?_, fun v => mem_check_tabCharacter, ?_,
    check_tabCharacter_ne_nil_iff⟩
  · rw [check_tabCharacter]
    exact pairwise_perLine_ite (fun _ _ => rfl) f
  · intro n before after hLine hFirst
    rw [tabAt_mem_check_iff hLine hFirst, ← Utf8.width_eq_length_iff,
      Nat.add_right_cancel_iff]
    exact eq_comm

end Quality

namespace Sample

/- A file with a tab behind three characters in four bytes. -/
def tabFile : SourceFile where
  path := "src/lib.rs"
  content := "f\u00fcr\tdich\n"

end Sample

/- The tab is in the fourth column, and reported in the fifth. -/
theorem Quality.sample_tabCharacter_counts_bytes :
    let before := "f\u00fcr".toList
    (1, before ++ '\t' :: "dich".toList) ∈ numberedLines Sample.tabFile ∧
      '\t' ∉ before ∧
      before.length = 3 ∧
      tabAt Sample.tabFile 1 4 ∉
        tabCharacter.check Sample.plainSettings Sample.tabFile ∧
      tabAt Sample.tabFile 1 5 ∈
        tabCharacter.check Sample.plainSettings Sample.tabFile := by
  intro before
  have hLine :
      (1, before ++ '\t' :: "dich".toList) ∈
        numberedLines Sample.tabFile := by
    decide
  have hFirst : '\t' ∉ before := by decide
  rcases tabCharacter_counts_bytes Sample.plainSettings Sample.tabFile with
    ⟨-, hFound, hPlace, -⟩
  refine ⟨hLine, hFirst, rfl, ?_, ?_⟩
  · intro hFourth
    have hPlain := (hPlace 1 before "dich".toList hLine hFirst).mp hFourth
    exact absurd (hPlain '\u00fc' (by decide)) (by decide)
  · exact (hFound _).mpr ⟨1, before, "dich".toList, hLine, hFirst, rfl⟩

end ReleasePipeline
