import Mathlib.Data.List.Nodup
import ReleasePipeline.Proofs.Text.Placeholders
import ReleasePipeline.Quality.Rules

/-
  This file proves how a text is divided into lines, and how
  they are numbered.  A text is the part behind its last
  newline, with one line after another in front of it.  So
  statements about lines go by induction on the lines.

  Key definitions include:
    * `Quality.EndsLine`
    * `Violation.Above`

  Main declarations:
    * `Quality.line_induction`
    * `Quality.linesOf_append`
    * `Quality.linesOf_replaceFrom`
    * `Quality.mem_iff_mem_linesOf`
    * `Quality.numberFrom_append`
    * `Quality.mem_perLine_ite`, `Quality.pairwise_perLine_ite`
-/

------------------------------------------------------------
-- Induction on Lines
------------------------------------------------------------

namespace ReleasePipeline

namespace Quality

variable {cs ds first line rest : List Char} {c : Char}

/-
  What holds of every text without a newline, and of a line
  in front of a text of which it holds, holds of every text.
-/
@[elab_as_elim]
theorem line_induction
    {motive : List Char → Prop}
    (last : ∀ cs, '\n' ∉ cs → motive cs)
    (line : ∀ first rest, '\n' ∉ first → motive rest →
      motive (first ++ '\n' :: rest))
    (cs : List Char) :
    motive cs := by
  by_cases hNewline : '\n' ∈ cs
  · rcases List.eq_append_cons_of_mem hNewline with
      ⟨first, rest, hSplit, hFirst⟩
    have hShorter : rest.length < cs.length := by
      rw [hSplit, List.length_append, List.length_cons]
      omega
    rw [hSplit]
    exact line first rest hFirst (line_induction last line rest)
  · exact last cs hNewline
termination_by cs.length

/- The last line of a text need not be ended. -/
theorem linesOf_of_not_mem (hLast : '\n' ∉ cs) :
    linesOf cs = if cs = [] then [] else [cs] := by
  unfold linesOf
  rw [Text.splitAt_of_not_mem hLast]
  cases cs with
  | nil => rfl
  | cons c cs => rfl

/- The first line is what stands in front of the first newline. -/
theorem linesOf_append_newline
    (hFirst : '\n' ∉ first)
    (rest : List Char) :
    linesOf (first ++ '\n' :: rest) = dropReturn first :: linesOf rest := by
  unfold linesOf
  dsimp only
  rw [Text.splitAt_append, Text.splitAt_of_not_mem hFirst,
    List.singleton_append]
  cases hPieces : Text.splitAt '\n' rest with
  | nil => exact absurd hPieces (Text.splitAt_ne_nil '\n' rest)
  | cons piece pieces => rfl

/- Each character is in a line, unless it may end one. -/
theorem mem_iff_mem_linesOf
    (hNewline : c ≠ '\n')
    (hReturn : c ≠ '\x0D') :
    c ∈ cs ↔ ∃ line ∈ linesOf cs, c ∈ line := by
  induction cs using line_induction with
  | last cs hLast =>
      rw [linesOf_of_not_mem hLast]
      cases cs with
      | nil => simp
      | cons d cs => simp
  | line first rest hFirst ih =>
      have hDropped : c ∈ first ↔ c ∈ dropReturn first := by
        unfold dropReturn
        split
        · next hEnd =>
            rw [← List.dropLast_append_getLast? _ hEnd]
            simp [hReturn]
        · rfl
      rw [linesOf_append_newline hFirst, List.mem_append,
        List.mem_cons, hDropped, ih]
      simp [hNewline]

/- No line has a newline in it. -/
theorem newline_not_mem_of_mem_linesOf (hLine : line ∈ linesOf cs) :
    '\n' ∉ line := by
  induction cs using line_induction with
  | last cs hLast =>
      rw [linesOf_of_not_mem hLast] at hLine
      split at hLine
      · cases hLine
      · rwa [List.mem_singleton.mp hLine]
  | line first rest hFirst ih =>
      rw [linesOf_append_newline hFirst] at hLine
      rcases List.mem_cons.mp hLine with rfl | hLater
      · unfold dropReturn
        split
        · exact fun hMem => hFirst (List.mem_of_mem_dropLast hMem)
        · exact hFirst
      · exact ih hLater

------------------------------------------------------------
-- Texts That End a Line
------------------------------------------------------------

/- A text that is empty, or of which the last line is ended. -/
def EndsLine (cs : List Char) : Prop :=
  cs = [] ∨ cs.getLast? = some '\n'

instance (cs : List Char) : Decidable (EndsLine cs) :=
  inferInstanceAs (Decidable (cs = [] ∨ cs.getLast? = some '\n'))

theorem endsLine_append_newline :
    EndsLine (first ++ '\n' :: rest) ↔ EndsLine rest := by
  unfold EndsLine
  cases rest with
  | nil => simp
  | cons d rest => simp [List.getLast?_cons_cons]

theorem eq_nil_of_endsLine
    (hLast : '\n' ∉ cs)
    (hEnds : EndsLine cs) :
    cs = [] := by
  rcases hEnds with hNil | hNewline
  · exact hNil
  · exact absurd (List.mem_of_getLast? hNewline) hLast

theorem EndsLine.append
    (hFirst : EndsLine cs)
    (hSecond : EndsLine ds) :
    EndsLine (cs ++ ds) := by
  rcases hSecond with rfl | hNewline
  · rwa [List.append_nil]
  · refine .inr ?_
    rw [List.getLast?_append, hNewline]
    rfl

/- What follows a text that ends a line begins a line. -/
theorem linesOf_append
    (hEnds : EndsLine cs)
    (ds : List Char) :
    linesOf (cs ++ ds) = linesOf cs ++ linesOf ds := by
  induction cs using line_induction with
  | last cs hLast =>
      rw [eq_nil_of_endsLine hLast hEnds]
      rfl
  | line first rest hFirst ih =>
      rw [List.append_assoc, List.cons_append,
        linesOf_append_newline hFirst, linesOf_append_newline hFirst,
        ih (endsLine_append_newline.mp hEnds), List.cons_append]

/- Such a text has a line for each of its newlines. -/
theorem length_linesOf (hEnds : EndsLine cs) :
    (linesOf cs).length = cs.count '\n' := by
  induction cs using line_induction with
  | last cs hLast =>
      rw [eq_nil_of_endsLine hLast hEnds]
      rfl
  | line first rest hFirst ih =>
      rw [linesOf_append_newline hFirst, List.length_cons,
        ih (endsLine_append_newline.mp hEnds), List.count_append,
        List.count_eq_zero.mpr hFirst, List.count_cons_self,
        Nat.zero_add]

------------------------------------------------------------
-- Other Ends of Lines
------------------------------------------------------------

/- Nothing is replaced behind the last newline. -/
theorem replaceFrom_of_not_mem (hLast : '\n' ∉ cs) :
    Text.replaceFrom ['\n'] ['\x0D', '\n'] 0 cs = cs :=
  Text.replaceFrom_of_not_infix _
    (mt (List.singleton_infix_iff '\n' cs).mp hLast)

/- The first line gets a carriage return, and then the rest. -/
theorem replaceFrom_append_newline
    (hFirst : '\n' ∉ first)
    (rest : List Char) :
    Text.replaceFrom ['\n'] ['\x0D', '\n'] 0 (first ++ '\n' :: rest) =
      (first ++ ['\x0D']) ++
        '\n' :: Text.replaceFrom ['\n'] ['\x0D', '\n'] 0 rest := by
  have hNewline :=
    Text.replaceFrom_old_append '\n' [] ['\x0D', '\n'] rest
  rw [Text.replaceFrom_append_cons List.not_mem_nil,
    replaceFrom_of_not_mem hFirst, List.append_assoc]
  exact congrArg (first ++ ·) hNewline

/-
  Carriage returns before the newlines are no part of the
  lines, unless the text has some already.
-/
theorem linesOf_replaceFrom
    (hPlain : ¬ ['\x0D', '\n'] <:+: cs) :
    linesOf (Text.replaceFrom ['\n'] ['\x0D', '\n'] 0 cs) =
      linesOf cs := by
  induction cs using line_induction with
  | last cs hLast => rw [replaceFrom_of_not_mem hLast]
  | line first rest hFirst ih =>
      have hRest : ¬ ['\x0D', '\n'] <:+: rest := by
        intro hInfix
        exact hPlain (hInfix.trans
          (List.suffix_append_of_suffix
            (List.suffix_cons '\n' rest)).isInfix)
      have hFirstPlain : first.getLast? ≠ some '\x0D' := by
        intro hReturn
        apply hPlain
        rw [← List.dropLast_append_getLast? _ hReturn]
        exact ⟨first.dropLast, rest, by simp⟩
      have hMarked : '\n' ∉ first ++ ['\x0D'] := by simp [hFirst]
      rw [replaceFrom_append_newline hFirst,
        linesOf_append_newline hMarked, linesOf_append_newline hFirst,
        ih hRest]
      -- The return that was put in is dropped, and no other one.
      unfold dropReturn
      rw [if_neg hFirstPlain, List.getLast?_concat, if_pos rfl,
        List.dropLast_concat]

/- They do not change how the text ends. -/
theorem endsLine_replaceFrom_iff :
    EndsLine (Text.replaceFrom ['\n'] ['\x0D', '\n'] 0 cs) ↔
      EndsLine cs := by
  induction cs using line_induction with
  | last cs hLast => rw [replaceFrom_of_not_mem hLast]
  | line first rest hFirst ih =>
      rw [replaceFrom_append_newline hFirst, endsLine_append_newline,
        endsLine_append_newline, ih]

------------------------------------------------------------
-- Numbers of Lines
------------------------------------------------------------

variable {f : SourceFile} {n : Nat} {lines : List (List Char)}

theorem numberFrom_append
    (n : Nat)
    (lines others : List (List Char)) :
    numberFrom n (lines ++ others) =
      numberFrom n lines ++ numberFrom (n + lines.length) others := by
  induction lines generalizing n with
  | nil => rfl
  | cons line lines ih =>
      have hNext : n + 1 + lines.length = n + (lines.length + 1) := by
        omega
      rw [List.cons_append, numberFrom, ih, numberFrom,
        List.length_cons, hNext, List.cons_append]

/- Where the count begins only matters for the numbers. -/
theorem numberFrom_add
    (n k : Nat)
    (lines : List (List Char)) :
    numberFrom (n + k) lines =
      (numberFrom n lines).map fun l => (l.1 + k, l.2) := by
  induction lines generalizing n with
  | nil => rfl
  | cons line lines ih =>
      rw [numberFrom, numberFrom, List.map_cons, ← ih,
        Nat.add_right_comm]

/- The lines are numbered one after another. -/
theorem map_fst_numberFrom
    (n : Nat)
    (lines : List (List Char)) :
    (numberFrom n lines).map (·.1) = List.range' n lines.length := by
  induction lines generalizing n with
  | nil => rfl
  | cons line lines ih =>
      rw [numberFrom, List.map_cons, ih, List.length_cons,
        List.range'_succ]

theorem map_snd_numberFrom
    (n : Nat)
    (lines : List (List Char)) :
    (numberFrom n lines).map (·.2) = lines := by
  induction lines generalizing n with
  | nil => rfl
  | cons line lines ih => rw [numberFrom, List.map_cons, ih]

theorem mem_linesOf_iff :
    line ∈ linesOf f.content.toList ↔
      ∃ n, (n, line) ∈ numberedLines f := by
  unfold numberedLines
  conv_lhs => rw [← map_snd_numberFrom 1 (linesOf f.content.toList)]
  simp

theorem newline_not_mem (hLine : (n, line) ∈ numberedLines f) :
    '\n' ∉ line :=
  newline_not_mem_of_mem_linesOf (mem_linesOf_iff.mpr ⟨n, hLine⟩)

/- The numbers of the lines of a file increase. -/
theorem pairwise_numberedLines (f : SourceFile) :
    (numberedLines f).Pairwise fun l m => l.1 < m.1 := by
  have hNumbers : ((numberedLines f).map (·.1)).Pairwise (· < ·) := by
    unfold numberedLines
    rw [map_fst_numberFrom]
    exact List.pairwise_lt_range'
  exact List.pairwise_map.mp hNumbers

/- No two lines have one number. -/
theorem eq_of_mem_numberedLines
    {other : List Char}
    (hLine : (n, line) ∈ numberedLines f)
    (hOther : (n, other) ∈ numberedLines f) :
    line = other := by
  have hNodup : ((numberedLines f).map (·.1)).Nodup :=
    List.pairwise_map.mpr
      ((pairwise_numberedLines f).imp Nat.ne_of_lt)
  cases List.inj_on_of_nodup_map hNodup hLine hOther rfl
  rfl

------------------------------------------------------------
-- Rules with One Finding a Line
------------------------------------------------------------

end Quality

/- A finding is about an earlier line than another. -/
def Violation.Above (v w : Violation) : Prop :=
  ∃ m n, v.line = some m ∧ w.line = some n ∧ m < n

theorem Violation.Above.line_ne
    {v w : Violation}
    (hAbove : v.Above w) :
    v.line ≠ w.line := by
  rcases hAbove with ⟨m, n, hFirst, hSecond, hLess⟩
  rw [hFirst, hSecond]
  exact fun hEq => Nat.ne_of_lt hLess (Option.some.inj hEq)

namespace Quality

variable {f : SourceFile}

variable
  {test : List Char → Bool}
  {finding : Nat → List Char → Violation}
  {v : Violation}

/- A rule that has one thing to say about some of the lines. -/
theorem perLine_ite
    (test : List Char → Bool)
    (finding : Nat → List Char → Violation)
    (f : SourceFile) :
    perLine (fun n line => if test line then [finding n line] else []) f =
      ((numberedLines f).filter fun l => test l.2).map
        fun l => finding l.1 l.2 := by
  unfold perLine
  induction numberedLines f with
  | nil => rfl
  | cons l ls ih =>
      rw [List.flatMap_cons, ih, List.filter_cons]
      dsimp only
      split <;> rfl

theorem mem_perLine_ite :
    v ∈ perLine
        (fun n line => if test line then [finding n line] else []) f ↔
      ∃ n line, (n, line) ∈ numberedLines f ∧ v = finding n line ∧
        test line = true := by
  rw [perLine_ite, List.mem_map]
  constructor
  · rintro ⟨⟨n, line⟩, hLine, rfl⟩
    rcases List.mem_filter.mp hLine with ⟨hLine, hTest⟩
    exact ⟨n, line, hLine, rfl, hTest⟩
  · rintro ⟨n, line, hLine, rfl, hTest⟩
    exact ⟨(n, line), List.mem_filter.mpr ⟨hLine, hTest⟩, rfl⟩

/- What it says about one line stands before what it says later. -/
theorem pairwise_perLine_ite
    (hLine : ∀ n line, (finding n line).line = some n)
    (f : SourceFile) :
    (perLine
      (fun n line => if test line then [finding n line] else []) f).Pairwise
      Violation.Above := by
  rw [perLine_ite, List.pairwise_map]
  refine ((pairwise_numberedLines f).sublist List.filter_sublist).imp ?_
  intro l m hLess
  exact ⟨l.1, m.1, hLine l.1 l.2, hLine m.1 m.2, hLess⟩

end Quality

end ReleasePipeline
