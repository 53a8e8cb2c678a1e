import ReleasePipeline.Proofs.Quality.OpenPoints

/-
  This file proves that the search for an open point is the
  search for the first match of a pattern,

    (?://|/\*).*?\bTODO\b(\([^)]*\))?

  of which the earliest match is preferred, and among those
  that begin together the one with the shortest gap, and then
  one with parentheses, as long as possible.

  Key definitions include:
    * `Quality.TodoPattern.matchesAt`
    * `Quality.TodoPattern.firstMatch?`

  Main declarations:
    * `Quality.TodoPattern.firstMatch?_eq`
    * `Quality.unownedTodo_eq_firstMatch`
-/

------------------------------------------------------------
-- Parts of the Pattern
------------------------------------------------------------

namespace ReleasePipeline

namespace Quality

namespace TodoPattern

/- A place in a text, and whether a word leads up to it. -/
structure Place where
  inWord : Bool
  rest : List Char

/- Behind a mark that opens a comment: `(?://|/\*)`. -/
def marks : List Char → List Place
  | '/' :: '/' :: rest => [⟨Unicode.isWord '/', rest⟩]
  | '/' :: '*' :: rest => [⟨Unicode.isWord '*', rest⟩]
  | _ => []

/- Behind any characters but newlines, few before many: `.*?`. -/
def gaps : Bool → List Char → List Place
  | inWord, [] => [⟨inWord, []⟩]
  | inWord, c :: cs =>
      ⟨inWord, c :: cs⟩ ::
        if c = '\n' then [] else gaps (Unicode.isWord c) cs

/- Behind a word of its own: `\bTODO\b`. -/
def words (p : Place) : List (List Char) :=
  let rest := p.rest.drop 4
  if "TODO".toList.isPrefixOf p.rest &&
      p.inWord != Unicode.isWord 'T' &&
      Unicode.isWord 'O' != beginsWord rest then
    [rest]
  else
    []

/- What a run without `)` takes, many before few: `[^)]*`. -/
def runs : List Char → List (List Char × List Char)
  | [] => [([], [])]
  | c :: cs =>
      if c = ')' then
        [([], c :: cs)]
      else
        (runs cs).map (fun run => (c :: run.1, run.2)) ++ [([], c :: cs)]

/- A run that is followed by a closing parenthesis. -/
def closed (run : List Char × List Char) : Option (List Char) :=
  match run.2 with
  | ')' :: _ => some run.1
  | _ => none

/- What is captured: parentheses, or else nothing: `(\([^)]*\))?`. -/
def captures : List Char → List (Option (List Char))
  | '(' :: cs =>
      ((runs cs).filterMap closed).map
          (fun owner => some ('(' :: (owner ++ [')']))) ++
        [none]
  | _ => [none]

/- The captures of the matches at the front of a text. -/
def matchesAt (cs : List Char) : List (Option (List Char)) :=
  (marks cs).flatMap fun p =>
    (gaps p.inWord p.rest).flatMap fun q =>
      (words q).flatMap captures

/- What the first match in a text captures, if there is one. -/
def firstMatch? (cs : List Char) : Option (Option (List Char)) :=
  (cs.tails.flatMap matchesAt).head?

------------------------------------------------------------
-- Parentheses
------------------------------------------------------------

variable {cs text : List Char} {inWord : Bool}

theorem closed_of_ne
    {c : Char}
    (hOther : c ≠ ')')
    (taken cs : List Char) :
    closed (taken, c :: cs) = none := by
  unfold closed
  split
  · next hHead => exact absurd (List.cons.inj hHead).1 hOther
  · rfl

theorem closed_cons
    (c : Char)
    (run : List Char × List Char) :
    closed (c :: run.1, run.2) = (closed run).map (c :: ·) := by
  rcases run with ⟨taken, rest⟩
  cases rest with
  | nil => rfl
  | cons d rest =>
      by_cases hClosing : d = ')'
      · subst hClosing
        rfl
      · rw [closed_of_ne hClosing, closed_of_ne hClosing]
        rfl

/- Only the whole run can be followed by a closing parenthesis. -/
theorem filterMap_runs (cs : List Char) :
    (runs cs).filterMap closed =
      if ')' ∈ cs then [cs.takeWhile (· != ')')] else [] := by
  induction cs with
  | nil => rfl
  | cons c cs ih =>
      rw [runs]
      by_cases hClosing : c = ')'
      · subst hClosing
        rfl
      · have hTail : ')' ∈ c :: cs ↔ ')' ∈ cs := by
          rw [List.mem_cons]
          exact or_iff_right (Ne.symm hClosing)
        have hLast : closed ([], c :: cs) = none :=
          closed_of_ne hClosing [] cs
        have hRuns :
            ((runs cs).map fun run => (c :: run.1, run.2)).filterMap
              closed = ((runs cs).filterMap closed).map (c :: ·) := by
          rw [List.filterMap_map, List.map_filterMap]
          exact List.filterMap_congr fun run _ => closed_cons c run
        rw [if_neg hClosing, List.filterMap_append, hRuns, ih,
          List.filterMap_cons_none hLast, List.filterMap_nil,
          List.append_nil]
        simp only [hTail]
        split
        · rw [List.map_cons, List.map_nil, List.takeWhile_cons_of_pos]
          simpa using hClosing
        · rfl

/- What is captured behind a word in the first place. -/
def preferred (rest : List Char) : Option (List Char) :=
  (captures rest).head?.getD none

theorem head?_captures (rest : List Char) :
    (captures rest).head? = some (preferred rest) := by
  have hNonempty : captures rest ≠ [] := by
    unfold captures
    split <;> simp
  unfold preferred
  cases hHead : (captures rest).head? with
  | none => exact absurd (List.head?_eq_none_iff.mp hHead) hNonempty
  | some capture => rfl

/- The parentheses that are captured are those of the search. -/
theorem getD_preferred (rest : List Char) :
    (preferred rest).getD [] = ownerGroup rest := by
  unfold preferred captures
  split
  · next cs =>
      have hGroup :
          ownerGroup ('(' :: cs) =
            if cs.contains ')' then
              '(' :: (cs.takeWhile (· != ')') ++ [')'])
            else
              [] := rfl
      rw [filterMap_runs, hGroup]
      by_cases hClosing : ')' ∈ cs
      · rw [if_pos hClosing, if_pos (List.contains_iff_mem.mpr hClosing)]
        rfl
      · rw [if_neg hClosing,
          if_neg (mt List.contains_iff_mem.mp hClosing)]
        rfl
  · next hOther =>
      unfold ownerGroup
      split
      · next cs => exact absurd rfl (hOther cs)
      · rfl

------------------------------------------------------------
-- Searching
------------------------------------------------------------

/- The word is looked for as in the search. -/
theorem words_cons
    (inWord : Bool)
    (c : Char)
    (cs : List Char) :
    words ⟨inWord, c :: cs⟩ =
      if !inWord && "TODO".toList.isPrefixOf (c :: cs) &&
          !beginsWord (cs.drop 3) then
        [cs.drop 3]
      else
        [] := by
  have hStart : Unicode.isWord 'T' = true := by decide
  have hEnd : Unicode.isWord 'O' = true := by decide
  unfold words
  simp only [List.drop_succ_cons, hStart, hEnd]
  cases inWord <;> cases "TODO".toList.isPrefixOf (c :: cs) <;>
    cases beginsWord (cs.drop 3) <;> rfl

/- The shortest gap leads to the first word of its own. -/
theorem findSome?_gaps
    (hLine : '\n' ∉ cs)
    (inWord : Bool) :
    (gaps inWord cs).findSome? (fun q => (words q).head?) =
      afterTodo? inWord cs := by
  induction cs generalizing inWord with
  | nil => rfl
  | cons c cs ih =>
      have hNewline : ¬ c = '\n' :=
        fun hEq => hLine (hEq ▸ List.mem_cons_self)
      have hTail : '\n' ∉ cs := List.not_mem_of_not_mem_cons hLine
      rw [gaps, if_neg hNewline, List.findSome?_cons, words_cons,
        afterTodo?]
      by_cases hFront :
          (!inWord && "TODO".toList.isPrefixOf (c :: cs) &&
            !beginsWord (cs.drop 3)) = true
      · rw [if_pos hFront, if_pos hFront]
        rfl
      · rw [if_neg hFront, if_neg hFront]
        exact ih hTail _

/- What the first match at the front of a text captures. -/
def captureAt (cs : List Char) : Option (Option (List Char)) :=
  (matchesAt cs).head?

theorem captureAt_of_marks
    {p : Place}
    (hMarks : marks cs = [p])
    (hLine : '\n' ∉ p.rest) :
    captureAt cs = (afterTodo? p.inWord p.rest).map preferred := by
  have hWords (q : Place) :
      ((words q).flatMap captures).head? =
        (words q).head?.map preferred := by
    unfold words
    dsimp only
    split
    · rw [List.flatMap_singleton]
      exact head?_captures _
    · rfl
  unfold captureAt matchesAt
  rw [hMarks, List.flatMap_singleton, List.head?_flatMap,
    ← findSome?_gaps hLine, List.map_findSome?]
  exact congrArg (fun f => List.findSome? f (gaps p.inWord p.rest))
    (funext hWords)

/- A mark has two characters, and no word leads up to its end. -/
theorem marks_cases (cs : List Char) :
    marks cs = [] ∨
      ∃ c rest, cs = '/' :: c :: rest ∧ Unicode.isWord c = false ∧
        marks cs = [⟨false, rest⟩] := by
  unfold marks
  split
  · next rest =>
      refine .inr ⟨'/', rest, rfl, isWord_mark.1, ?_⟩
      rw [isWord_mark.1]
  · next rest =>
      refine .inr ⟨'*', rest, rfl, isWord_mark.2, ?_⟩
      rw [isWord_mark.2]
  · exact .inl rfl

theorem captureAt_of_no_marks
    (hMarks : marks cs = []) :
    captureAt cs = none := by
  unfold captureAt matchesAt
  rw [hMarks]
  rfl

/- A match begins with a mark and has a word behind it. -/
theorem todoIn_of_captureAt
    {capture : Option (List Char)}
    (hLine : '\n' ∉ cs)
    (hCapture : captureAt cs = some capture) :
    ∃ c rest gap after, cs = '/' :: c :: rest ∧
      Unicode.isWord c = false ∧ TodoIn false rest gap after := by
  rcases marks_cases cs with hMarks | ⟨c, rest, rfl, hWord, hMarks⟩
  · rw [captureAt_of_no_marks hMarks] at hCapture
    cases hCapture
  · have hRest : '\n' ∉ rest :=
      List.not_mem_of_not_mem_cons (List.not_mem_of_not_mem_cons hLine)
    rw [captureAt_of_marks hMarks hRest] at hCapture
    rcases Option.map_eq_some_iff.mp hCapture with ⟨after, hFound, -⟩
    rcases afterTodo?_eq_some hFound with ⟨gap, hTodo, -⟩
    exact ⟨c, rest, gap, after, rfl, hWord, hTodo⟩

/-
  Where no word follows the first mark, none follows a later
  one, even one that begins with the end of the first.
-/
theorem findSome?_tails_of_none
    (hNone : afterTodo? false text = none)
    {mark : Char}
    (hLine : '\n' ∉ mark :: text) :
    (mark :: text).tails.findSome? captureAt = none := by
  rw [List.findSome?_eq_none_iff]
  intro tail hTail
  rw [List.mem_tails] at hTail
  cases hCapture : captureAt tail with
  | none => rfl
  | some capture =>
      exfalso
      have hTailLine : '\n' ∉ tail := fun hMem =>
        hLine (hTail.subset hMem)
      rcases todoIn_of_captureAt hTailLine hCapture with
        ⟨c, rest, gap, after, rfl, hWord, hTodo⟩
      have hBehind : ∃ front, text = front ++ c :: rest := by
        rcases hTail with ⟨front, hSplit⟩
        cases front with
        | nil =>
            exact ⟨[], (List.cons.inj hSplit).2.symm⟩
        | cons d front =>
            refine ⟨front ++ ['/'], ?_⟩
            rw [← (List.cons.inj hSplit).2, List.append_assoc]
            rfl
      rcases hBehind with ⟨front, hSplit⟩
      have hIn : TodoIn false text (front ++ c :: gap) after := by
        refine ⟨?_, ?_, hTodo.ends⟩
        · rw [hSplit, hTodo.split, List.append_assoc, List.cons_append]
        · rw [leadsWord_append]
          change leadsWord (Unicode.isWord c) gap = false
          rw [hWord]
          exact hTodo.starts
      exact not_todoIn_of_afterTodo? hNone hIn

/- The first match is where the search ends. -/
theorem firstMatch?_eq
    (hLine : '\n' ∉ cs) :
    firstMatch? cs = (afterFirst? cs).map preferred := by
  unfold firstMatch? afterFirst?
  rw [List.head?_flatMap]
  change cs.tails.findSome? captureAt = _
  have hMark {c : Char} {rest : List Char}
      (hWord : Unicode.isWord c = false)
      (hMarks : marks ('/' :: c :: rest) = [⟨false, rest⟩])
      (hLine : '\n' ∉ '/' :: c :: rest) :
      ('/' :: c :: rest).tails.findSome? captureAt =
        (afterTodo? false rest).map preferred := by
    have hTail := List.not_mem_of_not_mem_cons hLine
    rw [List.tails_cons, List.findSome?_cons,
      captureAt_of_marks hMarks (List.not_mem_of_not_mem_cons hTail)]
    cases hFound : afterTodo? false rest with
    | some after => rfl
    | none => exact findSome?_tails_of_none hFound hTail
  fun_induction commentText? cs with
  | case1 rest => exact hMark isWord_mark.1 (by simp [marks, isWord_mark]) hLine
  | case2 rest => exact hMark isWord_mark.2 (by simp [marks, isWord_mark]) hLine
  | case3 c rest hFirst hSecond ih =>
      have hMarks : marks (c :: rest) = [] := by
        unfold marks
        split
        · next hEq => exact absurd hEq (cons_ne_mark hFirst _)
        · next hEq => exact absurd hEq (cons_ne_mark hSecond _)
        · rfl
      rw [List.tails_cons, List.findSome?_cons,
        captureAt_of_no_marks hMarks]
      exact ih (List.not_mem_of_not_mem_cons hLine)
  | case4 => rfl

end TodoPattern

/- The rule reports what the first match of the pattern tells. -/
theorem unownedTodo_eq_firstMatch
    {line : List Char}
    (hLine : '\n' ∉ line) :
    unownedTodo line =
      (TodoPattern.firstMatch? line).any fun capture =>
        !capture.any fun owner => 2 < Utf8.width owner := by
  have hCapture (rest : List Char) :
      (!(TodoPattern.preferred rest).any fun owner =>
          2 < Utf8.width owner) =
        decide (Utf8.width (ownerGroup rest) ≤ 2) := by
    rw [← TodoPattern.getD_preferred]
    cases TodoPattern.preferred rest with
    | none => rfl
    | some owner =>
        rw [Option.any_some, ← decide_not, Option.getD_some]
        exact decide_eq_decide.mpr Nat.not_lt
  rw [TodoPattern.firstMatch?_eq hLine, unownedTodo_eq_any,
    Option.any_map]
  exact congrArg (fun p => (afterFirst? line).any p)
    (funext fun rest => (hCapture rest).symm)

end Quality

end ReleasePipeline
