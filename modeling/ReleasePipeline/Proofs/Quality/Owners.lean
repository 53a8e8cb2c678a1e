import ReleasePipeline.Proofs.Quality.Lines
import ReleasePipeline.Proofs.Quality.TodoPattern
import ReleasePipeline.Proofs.Text.Pieces
import ReleasePipeline.Proofs.Text.Utf8

/-
  This file proves which lines are reported for an open point
  without an owner.  Only the first open point of a line
  counts, and it passes if the parentheses behind it hold
  anything at all.  So a line passes with an owner that is
  blank, and with open points without an owner behind one that
  passes.

  Key definitions include:
    * `Quality.Encloses`
    * `Quality.OpenPoint.NamesOwner`
    * `Quality.OpenPoint.HoldsSomething`
    * `Quality.openPointAt`

  Main declarations:
    * `Quality.unownedTodo_iff`
    * `Quality.check_todoComment`
    * `Quality.todoComment_reports_first`
-/

------------------------------------------------------------
-- Owners
------------------------------------------------------------

namespace ReleasePipeline

namespace Quality

variable {after owner line : List Char}

/- A text begins with parentheses that hold an owner. -/
def Encloses (after owner : List Char) : Prop :=
  ∃ rest, after = '(' :: (owner ++ ')' :: rest) ∧ ')' ∉ owner

namespace OpenPoint

/- Parentheses behind the open point hold a text that is not blank. -/
def NamesOwner (p : OpenPoint line) : Prop :=
  ∃ owner, Encloses p.after owner ∧ ∃ c ∈ owner, Text.isSpace c = false

/- Parentheses behind the open point hold a text that is not empty. -/
def HoldsSomething (p : OpenPoint line) : Prop :=
  ∃ owner, Encloses p.after owner ∧ owner ≠ []

/- An owner is something. -/
theorem NamesOwner.holdsSomething
    {p : OpenPoint line}
    (hOwner : p.NamesOwner) :
    p.HoldsSomething := by
  rcases hOwner with ⟨owner, hEncloses, c, hMem, -⟩
  exact ⟨owner, hEncloses, List.ne_nil_of_mem hMem⟩

end OpenPoint

/- The search finds the parentheses with the owner. -/
theorem ownerGroup_of_encloses
    (hEncloses : Encloses after owner) :
    ownerGroup after = '(' :: (owner ++ [')']) := by
  rcases hEncloses with ⟨rest, rfl, hClosing⟩
  have hContains : (owner ++ ')' :: rest).contains ')' = true :=
    List.contains_iff_mem.mpr (by simp)
  rw [ownerGroup, if_pos hContains,
    Text.takeWhile_append_cons hClosing]

/- Without parentheses it finds nothing. -/
theorem ownerGroup_of_not_encloses
    (hNone : ∀ owner, ¬ Encloses after owner) :
    ownerGroup after = [] := by
  unfold ownerGroup
  split
  · next cs =>
      rw [if_neg]
      intro hContains
      rcases List.eq_append_cons_of_mem (List.contains_iff_mem.mp hContains)
        with ⟨owner, rest, rfl, hClosing⟩
      exact hNone owner ⟨rest, rfl, hClosing⟩
  · rfl

/- Parentheses are too short if and only if they hold nothing. -/
theorem width_ownerGroup_le_iff :
    Utf8.width (ownerGroup after) ≤ 2 ↔
      ¬ ∃ owner, Encloses after owner ∧ owner ≠ [] := by
  constructor
  · rintro hShort ⟨owner, hEncloses, hNe⟩
    have hWidth := Utf8.length_le_width (ownerGroup after)
    have hPos := List.length_pos_iff.mpr hNe
    rw [ownerGroup_of_encloses hEncloses] at hShort hWidth
    simp only [List.length_cons, List.length_append, List.length_nil]
      at hWidth
    omega
  · intro hNothing
    by_cases hSome : ∃ owner, Encloses after owner
    · rcases hSome with ⟨owner, hEncloses⟩
      have hEmpty : owner = [] := by
        by_contra hNe
        exact hNothing ⟨owner, hEncloses, hNe⟩
      rw [ownerGroup_of_encloses hEncloses, hEmpty]
      decide
    · rw [ownerGroup_of_not_encloses (not_exists.mp hSome)]
      decide

/- The first open point of a line decides. -/
theorem unownedTodo_iff :
    unownedTodo line = true ↔
      ∃ p : OpenPoint line, p.IsFirst ∧ ¬ p.HoldsSomething := by
  rw [unownedTodo_eq_any, Option.any_eq_true]
  constructor
  · rintro ⟨after, hFound, hShort⟩
    rcases afterFirst?_eq_some hFound with ⟨p, hFirst, rfl⟩
    exact ⟨p, hFirst, width_ownerGroup_le_iff.mp (of_decide_eq_true hShort)⟩
  · rintro ⟨p, hFirst, hNothing⟩
    cases hFound : afterFirst? line with
    | none => exact (isEmpty_of_afterFirst? hFound).elim p
    | some after =>
        rcases afterFirst?_eq_some hFound with ⟨q, hOther, rfl⟩
        refine ⟨_, rfl, decide_eq_true ?_⟩
        rw [hOther.after_eq hFirst]
        exact width_ownerGroup_le_iff.mpr hNothing

/- A line with open points has a first one. -/
theorem OpenPoint.exists_isFirst (p : OpenPoint line) :
    ∃ q : OpenPoint line, q.IsFirst := by
  cases hFound : afterFirst? line with
  | none => exact (isEmpty_of_afterFirst? hFound).elim p
  | some after =>
      rcases afterFirst?_eq_some hFound with ⟨q, hFirst, -⟩
      exact ⟨q, hFirst⟩

/- An open point without an owner stands in a line. -/
def Unowned (line : List Char) : Prop :=
  ∃ p : OpenPoint line, ¬ p.NamesOwner

theorem unowned_of_unownedTodo
    (hReported : unownedTodo line = true) :
    Unowned line := by
  rcases unownedTodo_iff.mp hReported with ⟨p, -, hNothing⟩
  exact ⟨p, mt OpenPoint.NamesOwner.holdsSomething hNothing⟩

/- How an open point without an owner is missed. -/
theorem unowned_and_not_unownedTodo_iff :
    Unowned line ∧ ¬ unownedTodo line = true ↔
      ∃ p : OpenPoint line, p.IsFirst ∧ p.HoldsSomething ∧
        (¬ p.NamesOwner ∨
          ∃ q : OpenPoint line, p.before.length < q.before.length ∧
            ¬ q.NamesOwner) := by
  constructor
  · rintro ⟨⟨q, hUnowned⟩, hPasses⟩
    rcases q.exists_isFirst with ⟨p, hFirst⟩
    have hSomething : p.HoldsSomething := by
      by_contra hNothing
      exact hPasses (unownedTodo_iff.mpr ⟨p, hFirst, hNothing⟩)
    refine ⟨p, hFirst, hSomething, ?_⟩
    rcases (hFirst q).lt_or_eq with hLater | hSame
    · exact .inr ⟨q, hLater, hUnowned⟩
    · left
      unfold OpenPoint.NamesOwner at hUnowned ⊢
      rwa [OpenPoint.after_eq_of_length hSame]
  · rintro ⟨p, hFirst, hSomething, hMissed⟩
    refine ⟨?_, ?_⟩
    · rcases hMissed with hBlank | ⟨q, -, hUnowned⟩
      · exact ⟨p, hBlank⟩
      · exact ⟨q, hUnowned⟩
    · intro hReported
      rcases unownedTodo_iff.mp hReported with ⟨q, hOther, hNothing⟩
      unfold OpenPoint.HoldsSomething at hSomething hNothing
      rw [hFirst.after_eq hOther] at hSomething
      exact hNothing hSomething

------------------------------------------------------------
-- Reports
------------------------------------------------------------

variable {f : SourceFile} {n : Nat}

/- The finding of an open point in a line of a file. -/
def openPointAt
    (f : SourceFile)
    (n : Nat) : Violation where
  rule := "todo-comment"
  severity := .warning
  file := f.path
  line := some n
  message := "TODO comment without an owner"

/- Each line is looked at by itself. -/
theorem check_todoComment
    (s : RuleSettings)
    (f : SourceFile) :
    todoComment.check s f =
      perLine (fun n line =>
        if unownedTodo line then [openPointAt f n] else []) f :=
  rfl

theorem mem_check_todoComment
    {s : RuleSettings}
    {v : Violation} :
    v ∈ todoComment.check s f ↔
      ∃ n line, (n, line) ∈ numberedLines f ∧ v = openPointAt f n ∧
        unownedTodo line = true := by
  rw [check_todoComment]
  exact mem_perLine_ite

/- What is reported at a number is about the line of that number. -/
theorem openPointAt_mem_check
    (s : RuleSettings)
    (hLine : (n, line) ∈ numberedLines f) :
    openPointAt f n ∈ todoComment.check s f ↔ unownedTodo line = true := by
  rw [mem_check_todoComment]
  constructor
  · rintro ⟨m, other, hOther, hSame, hReported⟩
    have hNumber : n = m := Option.some.inj (congrArg Violation.line hSame)
    subst hNumber
    rwa [eq_of_mem_numberedLines hLine hOther]
  · intro hReported
    exact ⟨n, line, hLine, rfl, hReported⟩

/- No line is reported twice. -/
theorem nodup_check_todoComment
    (s : RuleSettings)
    (f : SourceFile) :
    ((todoComment.check s f).map (·.line)).Nodup := by
  rw [check_todoComment]
  refine List.pairwise_map.mpr (List.Pairwise.imp ?_
    (pairwise_perLine_ite (fun _ _ => rfl) f))
  exact Violation.Above.line_ne

/-
  A line is reported once, and if and only if nothing is in
  parentheses behind its first open point.  That is what the
  first match of the pattern tells.  A line that is reported
  has an open point without an owner.  One that has, and is
  not reported, is a line of which the first open point has
  something behind it, and which is a blank or is followed by
  another open point without an owner.
-/
theorem todoComment_reports_first
    (s : RuleSettings)
    (f : SourceFile) :
    ((todoComment.check s f).map (·.line)).Nodup ∧
    (∀ v, v ∈ todoComment.check s f ↔
      ∃ n line, (n, line) ∈ numberedLines f ∧ v = openPointAt f n ∧
        ∃ p : OpenPoint line, p.IsFirst ∧ ¬ p.HoldsSomething) ∧
    ∀ n line, (n, line) ∈ numberedLines f →
      (openPointAt f n ∈ todoComment.check s f ↔
        (TodoPattern.firstMatch? line).any (fun capture =>
          !capture.any fun owner => 2 < Utf8.width owner) = true) ∧
      (openPointAt f n ∈ todoComment.check s f → Unowned line) ∧
      (Unowned line ∧ openPointAt f n ∉ todoComment.check s f ↔
        ∃ p : OpenPoint line, p.IsFirst ∧ p.HoldsSomething ∧
          (¬ p.NamesOwner ∨
            ∃ q : OpenPoint line, p.before.length < q.before.length ∧
              ¬ q.NamesOwner)) := by
  refine ⟨nodup_check_todoComment s f, fun v => ?_, fun n line hLine => ?_⟩
  · rw [mem_check_todoComment]
    simp only [unownedTodo_iff]
  · rw [openPointAt_mem_check s hLine]
    refine ⟨?_, unowned_of_unownedTodo, unowned_and_not_unownedTodo_iff⟩
    rw [unownedTodo_eq_firstMatch (newline_not_mem hLine)]

end Quality

namespace Sample

/- A line of which only the first open point has an owner. -/
def todoLine : List Char :=
  "// TODO(alice): split and TODO: test".toList

/- A file with that line. -/
def todoFile : SourceFile where
  path := "src/lib.rs"
  content := "// TODO(alice): split and TODO: test\n"

/- The other open point. -/
def secondTodo : Quality.OpenPoint todoLine where
  before := "// TODO(alice): split and ".toList
  after := ": test".toList
  split := by decide
  opened := .inl (by decide)
  starts := by decide
  ends := by decide

theorem secondTodo_unowned : ¬ secondTodo.NamesOwner := by
  rintro ⟨owner, ⟨rest, hAfter, -⟩, -⟩
  have hHead : ':' = '(' := (List.cons.inj hAfter).1
  exact absurd hHead (by decide)

end Sample

/- The line is not reported, although one of them has no owner. -/
theorem Quality.sample_todoComment_reports_first :
    let settings : RuleSettings :=
      { sources := [], maxLineLength := 120, header := none
        forbidden := [], suppressions := [] }
    (1, Sample.todoLine) ∈ numberedLines Sample.todoFile ∧
      Unowned Sample.todoLine ∧
      openPointAt Sample.todoFile 1 ∉
        todoComment.check settings Sample.todoFile ∧
      ∃ p : OpenPoint Sample.todoLine, p.IsFirst ∧ p.HoldsSomething := by
  intro settings
  have hLine : (1, Sample.todoLine) ∈ numberedLines Sample.todoFile := by
    decide
  rcases (todoComment_reports_first settings Sample.todoFile).2.2 1
      Sample.todoLine hLine with
    ⟨hMatch, -, hMissed⟩
  have hUnowned : Unowned Sample.todoLine :=
    ⟨Sample.secondTodo, Sample.secondTodo_unowned⟩
  have hPasses :
      openPointAt Sample.todoFile 1 ∉
        todoComment.check settings Sample.todoFile := by
    rw [hMatch]
    decide +kernel
  rcases hMissed.mp ⟨hUnowned, hPasses⟩ with ⟨p, hFirst, hSomething, -⟩
  exact ⟨hLine, hUnowned, hPasses, p, hFirst, hSomething⟩

end ReleasePipeline
