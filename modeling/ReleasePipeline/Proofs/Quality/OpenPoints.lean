import Mathlib.Data.List.Infix
import ReleasePipeline.Quality.Rules

/-
  This file proves where the search for open points in a
  comment ends.  An open point is a word of its own somewhere
  behind a mark that opens a comment, and the search ends at
  the first one of a line.

  Key definitions include:
    * `Quality.Opened`
    * `Quality.leadsWord`
    * `Quality.TodoIn`
    * `Quality.OpenPoint`

  Main declarations:
    * `Quality.commentText?_eq_some`
    * `Quality.afterTodo?_eq_some`
    * `Quality.afterFirst?_eq_some`
    * `Quality.isEmpty_of_afterFirst?`
-/

------------------------------------------------------------
-- Comments
------------------------------------------------------------

namespace ReleasePipeline

namespace Quality

/- A text in which a comment is opened. -/
def Opened (cs : List Char) : Prop :=
  ['/', '/'] <:+: cs ∨ ['/', '*'] <:+: cs

/- Whether a word leads up to the end of a text. -/
def leadsWord
    (inWord : Bool)
    (cs : List Char) : Bool :=
  cs.foldl (fun _ c => Unicode.isWord c) inWord

theorem leadsWord_append
    (inWord : Bool)
    (cs ds : List Char) :
    leadsWord inWord (cs ++ ds) = leadsWord (leadsWord inWord cs) ds :=
  List.foldl_append

/- The marks that open a comment do not lead up to a word. -/
theorem isWord_mark :
    Unicode.isWord '/' = false ∧ Unicode.isWord '*' = false := by
  decide

variable {cs line text rest : List Char}

/- The text of a comment is all that follows any opened part. -/
structure CommentText (cs text front : List Char) : Prop where
  split : cs = front ++ text
  opened : Opened front
  unworded : ∀ inWord, leadsWord inWord front = false
  whole : ∀ before after, cs = before ++ after → Opened before →
    ∃ gap, text = gap ++ after

/- A comment that is opened at once. -/
theorem commentText_of_mark
    {mark : Char}
    (hMark : mark = '/' ∨ mark = '*')
    (rest : List Char) :
    CommentText ('/' :: mark :: rest) rest ['/', mark] where
  split := rfl
  opened := by
    rcases hMark with rfl | rfl
    · exact .inl (List.infix_refl _)
    · exact .inr (List.infix_refl _)
  unworded := by
    intro inWord
    rcases hMark with rfl | rfl
    · exact isWord_mark.1
    · exact isWord_mark.2
  whole := by
    intro before after hSplit hOpened
    have hLong : 2 ≤ before.length :=
      hOpened.elim (·.length_le) (·.length_le)
    match before, hLong with
    | c :: d :: before, _ =>
        simp only [List.cons_append, List.cons.injEq] at hSplit
        exact ⟨before, hSplit.2.2⟩

/- A comment that is not opened at once is opened later. -/
theorem opened_cons
    {c : Char}
    {before : List Char}
    (hFirst : ∀ rest, c :: before ≠ '/' :: '/' :: rest)
    (hSecond : ∀ rest, c :: before ≠ '/' :: '*' :: rest)
    (hOpened : Opened (c :: before)) :
    Opened before := by
  unfold Opened at hOpened
  rw [List.infix_cons_iff, List.infix_cons_iff] at hOpened
  rcases hOpened with (⟨rest, hEq⟩ | hLater) | (⟨rest, hEq⟩ | hLater)
  · exact absurd hEq.symm (hFirst rest)
  · exact .inl hLater
  · exact absurd hEq.symm (hSecond rest)
  · exact .inr hLater

theorem CommentText.cons
    {c : Char}
    {front : List Char}
    (hFirst : ∀ rest, c :: cs ≠ '/' :: '/' :: rest)
    (hSecond : ∀ rest, c :: cs ≠ '/' :: '*' :: rest)
    (hText : CommentText cs text front) :
    CommentText (c :: cs) text (c :: front) where
  split := by rw [hText.split, List.cons_append]
  opened :=
    hText.opened.imp (·.trans (List.suffix_cons c front).isInfix)
      (·.trans (List.suffix_cons c front).isInfix)
  unworded := fun _ => hText.unworded _
  whole := by
    intro before after hSplit hOpened
    cases before with
    | nil =>
        exfalso
        rcases hOpened with hNil | hNil <;>
          simpa using hNil.length_le
    | cons d before =>
        simp only [List.cons_append, List.cons.injEq] at hSplit
        rcases hSplit with ⟨rfl, hRest⟩
        apply hText.whole before after hRest
        apply opened_cons _ _ hOpened
        · intro rest hEq
          apply hFirst (rest ++ after)
          rw [hRest, ← List.cons_append, hEq]
          rfl
        · intro rest hEq
          apply hSecond (rest ++ after)
          rw [hRest, ← List.cons_append, hEq]
          rfl

theorem cons_ne_mark
    {c mark : Char}
    (hOther : ∀ further, c = '/' → cs = mark :: further → False)
    (further : List Char) :
    c :: cs ≠ '/' :: mark :: further := by
  intro hEq
  injection hEq with hHead hTail
  exact hOther further hHead hTail

/- The search finds the text of the comment. -/
theorem commentText?_eq_some
    (hFound : commentText? cs = some text) :
    ∃ front, CommentText cs text front := by
  fun_induction commentText? cs with
  | case1 rest =>
      cases hFound
      exact ⟨_, commentText_of_mark (.inl rfl) _⟩
  | case2 rest =>
      cases hFound
      exact ⟨_, commentText_of_mark (.inr rfl) _⟩
  | case3 c rest hFirst hSecond ih =>
      rcases ih hFound with ⟨front, hText⟩
      exact ⟨c :: front,
        hText.cons (cons_ne_mark hFirst) (cons_ne_mark hSecond)⟩
  | case4 => cases hFound

/- If it finds none, no comment is opened. -/
theorem not_opened_of_commentText?
    (hNone : commentText? cs = none) :
    ¬ Opened cs := by
  fun_induction commentText? cs with
  | case1 rest => cases hNone
  | case2 rest => cases hNone
  | case3 c rest hFirst hSecond ih =>
      intro hOpened
      exact ih hNone
        (opened_cons (cons_ne_mark hFirst) (cons_ne_mark hSecond) hOpened)
  | case4 =>
      rintro (hNil | hNil) <;> simpa using hNil.length_le

------------------------------------------------------------
-- Words of Their Own
------------------------------------------------------------

/- A word of its own in a text that a word may lead up to. -/
structure TodoIn
    (inWord : Bool)
    (text gap after : List Char) : Prop where
  split : text = gap ++ ("TODO".toList ++ after)
  starts : leadsWord inWord gap = false
  ends : beginsWord after = false

variable {inWord : Bool} {after gap : List Char} {c : Char}

/- It is either at the front of a text or behind the front. -/
theorem todoIn_cons_iff :
    TodoIn inWord (c :: text) gap after ↔
      (gap = [] ∧ inWord = false ∧ c :: text = "TODO".toList ++ after ∧
        beginsWord after = false) ∨
      ∃ tail, gap = c :: tail ∧
        TodoIn (Unicode.isWord c) text tail after := by
  constructor
  · rintro ⟨hSplit, hStarts, hEnds⟩
    cases gap with
    | nil => exact .inl ⟨rfl, hStarts, hSplit, hEnds⟩
    | cons d tail =>
        simp only [List.cons_append, List.cons.injEq] at hSplit
        rcases hSplit with ⟨rfl, hSplit⟩
        exact .inr ⟨tail, rfl, hSplit, hStarts, hEnds⟩
  · rintro (⟨rfl, hWord, hSplit, hEnds⟩ | ⟨tail, rfl, hTodo⟩)
    · exact ⟨hSplit, hWord, hEnds⟩
    · exact ⟨congrArg (c :: ·) hTodo.split, hTodo.starts, hTodo.ends⟩

/- What the search asks of the front of a text. -/
theorem front_iff :
    (!inWord && "TODO".toList.isPrefixOf (c :: text) &&
        !beginsWord (text.drop 3)) = true ↔
      inWord = false ∧ c :: text = "TODO".toList ++ text.drop 3 ∧
        beginsWord (text.drop 3) = false := by
  rw [Bool.and_eq_true, Bool.and_eq_true, Bool.not_eq_true',
    Bool.not_eq_true', List.isPrefixOf_iff_prefix, and_assoc]
  have hPrefix :
      "TODO".toList <+: c :: text ↔
        c :: text = "TODO".toList ++ text.drop 3 := by
    constructor
    · rintro ⟨after, hEq⟩
      have hAfter : text.drop 3 = after := by
        have hDrop := congrArg (List.drop 4) hEq
        exact hDrop.symm
      rw [hAfter, hEq]
    · intro hEq
      exact ⟨_, hEq.symm⟩
  rw [hPrefix]

/- The search finds the first one. -/
theorem afterTodo?_eq_some
    (hFound : afterTodo? inWord text = some after) :
    ∃ gap, TodoIn inWord text gap after ∧
      ∀ gap' after', TodoIn inWord text gap' after' →
        gap.length ≤ gap'.length := by
  induction text generalizing inWord with
  | nil => cases hFound
  | cons c text ih =>
      rw [afterTodo?] at hFound
      split at hFound
      · next hFront =>
          cases hFound
          refine ⟨[], ?_, fun _ _ _ => Nat.zero_le _⟩
          exact todoIn_cons_iff.mpr
            (.inl ⟨rfl, (front_iff.mp hFront).1, (front_iff.mp hFront).2⟩)
      · next hFront =>
          rcases ih hFound with ⟨gap, hTodo, hFirst⟩
          refine ⟨c :: gap, todoIn_cons_iff.mpr (.inr ⟨gap, rfl, hTodo⟩),
            ?_⟩
          intro gap' after' hOther
          rcases todoIn_cons_iff.mp hOther with
            ⟨-, hWord, hSplit, hEnds⟩ | ⟨tail, rfl, hLater⟩
          · exfalso
            have hAfter : text.drop 3 = after' :=
              congrArg (List.drop 4) hSplit
            rw [← hAfter] at hSplit hEnds
            exact hFront (front_iff.mpr ⟨hWord, hSplit, hEnds⟩)
          · exact Nat.succ_le_succ (hFirst tail after' hLater)

/- If it finds none, there is none. -/
theorem not_todoIn_of_afterTodo?
    (hNone : afterTodo? inWord text = none) :
    ¬ TodoIn inWord text gap after := by
  induction text generalizing inWord gap with
  | nil =>
      intro hTodo
      have hSplit := hTodo.split
      simp at hSplit
  | cons c text ih =>
      rw [afterTodo?] at hNone
      split at hNone
      · cases hNone
      · next hFront =>
          intro hTodo
          rcases todoIn_cons_iff.mp hTodo with
            ⟨-, hWord, hSplit, hEnds⟩ | ⟨tail, -, hLater⟩
          · have hAfter : text.drop 3 = after :=
              congrArg (List.drop 4) hSplit
            rw [← hAfter] at hSplit hEnds
            exact hFront (front_iff.mpr ⟨hWord, hSplit, hEnds⟩)
          · exact ih hNone hLater

------------------------------------------------------------
-- Open Points
------------------------------------------------------------

/- A word of its own that is in a comment of a line. -/
structure OpenPoint (line : List Char) where
  before : List Char
  after : List Char
  split : line = before ++ ("TODO".toList ++ after)
  opened : Opened before
  starts : leadsWord false before = false
  ends : beginsWord after = false

namespace OpenPoint

/- No other open point of the line comes before it. -/
def IsFirst (p : OpenPoint line) : Prop :=
  ∀ q : OpenPoint line, p.before.length ≤ q.before.length

/- Open points at one place are followed by the same text. -/
theorem after_eq_of_length
    {p q : OpenPoint line}
    (hLength : p.before.length = q.before.length) :
    p.after = q.after := by
  have hSplit := p.split.symm.trans q.split
  exact List.append_cancel_left (List.append_inj hSplit hLength).2

theorem IsFirst.after_eq
    {p q : OpenPoint line}
    (hFirst : p.IsFirst)
    (hOther : q.IsFirst) :
    p.after = q.after :=
  after_eq_of_length (Nat.le_antisymm (hFirst q) (hOther p))

end OpenPoint

/- Behind the front of a comment, open points are words. -/
theorem CommentText.todoIn_of_openPoint
    {front : List Char}
    (hText : CommentText line text front)
    (p : OpenPoint line) :
    ∃ gap, p.before = front ++ gap ∧ TodoIn false text gap p.after := by
  rcases hText.whole _ _ p.split p.opened with ⟨gap, hGap⟩
  have hBefore : p.before = front ++ gap := by
    have hSplit := p.split.symm.trans hText.split
    rw [hGap, ← List.append_assoc front] at hSplit
    exact List.append_cancel_right hSplit
  refine ⟨gap, hBefore, hGap, ?_, p.ends⟩
  have hStarts := p.starts
  rwa [hBefore, leadsWord_append, hText.unworded] at hStarts

/- And words there are open points. -/
def CommentText.openPoint
    {front : List Char}
    (hText : CommentText line text front)
    (hTodo : TodoIn false text gap after) :
    OpenPoint line where
  before := front ++ gap
  after := after
  split := by rw [hText.split, hTodo.split, List.append_assoc]
  opened :=
    hText.opened.imp (·.trans (List.prefix_append front gap).isInfix)
      (·.trans (List.prefix_append front gap).isInfix)
  starts := by
    rw [leadsWord_append, hText.unworded]
    exact hTodo.starts
  ends := hTodo.ends

/- What follows the first open point of a line, if there is one. -/
def afterFirst? (line : List Char) : Option (List Char) :=
  (commentText? line).bind (afterTodo? false)

theorem unownedTodo_eq_any (line : List Char) :
    unownedTodo line =
      (afterFirst? line).any fun rest =>
        decide (Utf8.width (ownerGroup rest) ≤ 2) := by
  unfold unownedTodo afterFirst?
  cases commentText? line with
  | none => rfl
  | some text =>
      rw [Option.bind_some]
      dsimp only
      cases afterTodo? false text <;> rfl

theorem afterFirst?_eq_some
    (hFound : afterFirst? line = some after) :
    ∃ p : OpenPoint line, p.IsFirst ∧ p.after = after := by
  unfold afterFirst? at hFound
  rcases Option.bind_eq_some_iff.mp hFound with ⟨text, hComment, hTodo⟩
  rcases commentText?_eq_some hComment with ⟨front, hText⟩
  rcases afterTodo?_eq_some hTodo with ⟨gap, hIn, hFirst⟩
  refine ⟨hText.openPoint hIn, ?_, rfl⟩
  intro q
  rcases hText.todoIn_of_openPoint q with ⟨gap', hBefore, hOther⟩
  have hLength := hFirst gap' q.after hOther
  change (front ++ gap).length ≤ q.before.length
  rw [hBefore, List.length_append, List.length_append]
  omega

theorem isEmpty_of_afterFirst?
    (hNone : afterFirst? line = none) :
    IsEmpty (OpenPoint line) := by
  refine ⟨fun p => ?_⟩
  unfold afterFirst? at hNone
  cases hComment : commentText? line with
  | none =>
      apply not_opened_of_commentText? hComment
      rw [p.split]
      exact p.opened.imp
        (·.trans (List.prefix_append p.before _).isInfix)
        (·.trans (List.prefix_append p.before _).isInfix)
  | some text =>
      rw [hComment] at hNone
      rcases commentText?_eq_some hComment with ⟨front, hText⟩
      rcases hText.todoIn_of_openPoint p with ⟨gap, -, hTodo⟩
      exact not_todoIn_of_afterTodo? hNone hTodo

end Quality

end ReleasePipeline
