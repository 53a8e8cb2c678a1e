import Mathlib.Data.List.Basic
import Mathlib.Data.List.Infix
import ReleasePipeline.Proofs.Text.Pieces

/-
  This file proves what becomes of a text when a placeholder in
  it is filled in.  A character that is not in the rest of the
  placeholder, such as the one that it begins with, divides a
  text into parts that are filled in apart from each other.

  Main declarations:
    * `Text.replaceFrom_append_cons`
    * `Text.replaceFrom_of_not_infix`
    * `Text.exists_last_infix`
    * `Text.replaceFrom_around_last`
    * `Text.splitAt_replaceFrom`
-/

------------------------------------------------------------
-- Filling In
------------------------------------------------------------

namespace ReleasePipeline

namespace Text

variable {o c : Char}
variable {os new cs ds : List Char}

/- What is passed over leaves no trace. -/
theorem replaceFrom_skip
    (old new ds cs : List Char) :
    replaceFrom old new ds.length (ds ++ cs) =
      replaceFrom old new 0 cs := by
  induction ds with
  | nil => rfl
  | cons d ds ih => exact ih

/- An occurrence at the front is replaced, and then the rest. -/
theorem replaceFrom_old_append
    (o : Char)
    (os new cs : List Char) :
    replaceFrom (o :: os) new 0 (o :: os ++ cs) =
      new ++ replaceFrom (o :: os) new 0 cs := by
  have hPrefix : (o :: os).isPrefixOf (o :: (os ++ cs)) = true := by
    rw [List.isPrefixOf_iff_prefix]
    exact List.prefix_append (o :: os) cs
  rw [List.cons_append, replaceFrom, if_pos hPrefix]
  exact congrArg (new ++ ·) (replaceFrom_skip (o :: os) new os cs)

theorem replaceFrom_cons_of_not_front
    (hPrefix : ¬ o :: os <+: c :: cs) :
    replaceFrom (o :: os) new 0 (c :: cs) =
      c :: replaceFrom (o :: os) new 0 cs := by
  rw [← List.isPrefixOf_iff_prefix] at hPrefix
  rw [replaceFrom, if_neg hPrefix]

theorem replaceFrom_cons_of_ne (hNe : c ≠ o) :
    replaceFrom (o :: os) new 0 (c :: cs) =
      c :: replaceFrom (o :: os) new 0 cs :=
  replaceFrom_cons_of_not_front fun hPrefix =>
    hNe (List.cons_prefix_cons.mp hPrefix).1.symm

/- No occurrence goes over a character that is not in its rest. -/
theorem prefix_append_cons_iff (hChar : c ∉ os) :
    os <+: cs ++ c :: ds ↔ os <+: cs := by
  refine ⟨fun hPrefix => ?_, fun hPrefix => hPrefix.trans
    (List.prefix_append cs _)⟩
  rcases List.prefix_or_prefix_of_prefix hPrefix
      (List.prefix_append cs _) with
    hInside | ⟨beyond, hBeyond⟩
  · exact hInside
  · rw [← hBeyond, List.prefix_append_right_inj] at hPrefix
    cases beyond with
    | nil =>
        rw [List.append_nil] at hBeyond
        rw [hBeyond]
    | cons d beyond =>
        have hHead := (List.cons_prefix_cons.mp hPrefix).1
        have hMem : d ∈ os := by
          rw [← hBeyond]
          exact List.mem_append_right cs List.mem_cons_self
        exact absurd (hHead ▸ hMem) hChar

theorem cons_prefix_append_cons_iff
    {d : Char}
    (hChar : c ∉ os) :
    o :: os <+: d :: (cs ++ c :: ds) ↔ o :: os <+: d :: cs := by
  rw [List.cons_prefix_cons, List.cons_prefix_cons,
    prefix_append_cons_iff hChar]

/- So the text before it is filled in by itself. -/
theorem replaceFrom_append_cons
    (hChar : c ∉ os)
    (new cs ds : List Char) :
    replaceFrom (o :: os) new 0 (cs ++ c :: ds) =
      replaceFrom (o :: os) new 0 cs ++
        replaceFrom (o :: os) new 0 (c :: ds) := by
  -- An occurrence that has begun ends before the character.
  have hSkip (skip : Nat) (hLength : skip ≤ cs.length) :
      replaceFrom (o :: os) new skip (cs ++ c :: ds) =
        replaceFrom (o :: os) new skip cs ++
          replaceFrom (o :: os) new 0 (c :: ds) := by
    induction cs generalizing skip with
    | nil =>
        rw [Nat.le_zero.mp hLength]
        rfl
    | cons d cs ih =>
        cases skip with
        | succ skip => exact ih skip (Nat.le_of_succ_le_succ hLength)
        | zero =>
            by_cases hPrefix : o :: os <+: d :: cs
            · have hFits : os.length ≤ cs.length :=
                Nat.le_of_succ_le_succ hPrefix.length_le
              have hLong : o :: os <+: d :: (cs ++ c :: ds) :=
                (cons_prefix_append_cons_iff hChar).mpr hPrefix
              rw [List.cons_append, replaceFrom, replaceFrom,
                if_pos (List.isPrefixOf_iff_prefix.mpr hPrefix),
                if_pos (List.isPrefixOf_iff_prefix.mpr hLong),
                List.append_assoc]
              exact congrArg (new ++ ·) (ih os.length hFits)
            · have hLong : ¬ o :: os <+: d :: (cs ++ c :: ds) :=
                mt (cons_prefix_append_cons_iff hChar).mp hPrefix
              rw [List.cons_append,
                replaceFrom_cons_of_not_front hPrefix,
                replaceFrom_cons_of_not_front hLong, List.cons_append,
                ih 0 (Nat.zero_le _)]
  exact hSkip 0 (Nat.zero_le _)

/- A text without the placeholder stays as it is. -/
theorem replaceFrom_of_not_infix
    (new : List Char)
    (hMissing : ¬ o :: os <:+: cs) :
    replaceFrom (o :: os) new 0 cs = cs := by
  induction cs with
  | nil => rfl
  | cons c cs ih =>
      rw [List.infix_cons_iff, not_or] at hMissing
      rw [replaceFrom_cons_of_not_front hMissing.1, ih hMissing.2]

/- What a filled text is made of. -/
theorem mem_replaceFrom
    {old : List Char}
    {skip : Nat}
    (hMem : c ∈ replaceFrom old new skip cs) :
    c ∈ new ∨ c ∈ cs := by
  induction cs generalizing skip with
  | nil =>
      cases skip <;> cases hMem
  | cons d cs ih =>
      cases skip with
      | succ skip =>
          exact (ih hMem).imp_right (List.mem_cons_of_mem d)
      | zero =>
          rw [replaceFrom] at hMem
          split at hMem
          · rcases List.mem_append.mp hMem with hNew | hLater
            · exact .inl hNew
            · exact (ih hLater).imp_right (List.mem_cons_of_mem d)
          · rcases List.mem_cons.mp hMem with rfl | hLater
            · exact .inr List.mem_cons_self
            · exact (ih hLater).imp_right (List.mem_cons_of_mem d)

/- The characters of a filled text. -/
theorem toList_replaceAll (text old new : String) :
    (replaceAll text old new).toList =
      replaceFrom old.toList new.toList 0 text.toList := by
  unfold replaceAll
  exact String.toList_ofList

theorem not_mem_replaceAll
    {text old new : String}
    (hNew : c ∉ new.toList)
    (hText : c ∉ text.toList) :
    c ∉ (replaceAll text old new).toList := by
  rw [toList_replaceAll]
  exact fun hMem => (mem_replaceFrom hMem).elim hNew hText

------------------------------------------------------------
-- The Last Occurrence
------------------------------------------------------------

/- Whatever is filled in, something is left of a text. -/
theorem replaceFrom_eq_nil_iff (hNew : new ≠ []) :
    replaceFrom (o :: os) new 0 cs = [] ↔ cs = [] := by
  refine ⟨fun hNil => ?_, fun hNil => by rw [hNil]; rfl⟩
  cases cs with
  | nil => rfl
  | cons c cs =>
      rw [replaceFrom] at hNil
      split at hNil
      · exact absurd (List.append_eq_nil_iff.mp hNil).1 hNew
      · cases hNil

/- A text that has a placeholder in it has a last one. -/
theorem exists_last_infix
    {old cs : List Char}
    (hOld : old ≠ [])
    (hOccurs : old <:+: cs) :
    ∃ before rest,
      cs = before ++ old ++ rest ∧ ¬ old <:+: rest := by
  rcases hOccurs with ⟨before, rest, rfl⟩
  by_cases hAgain : old <:+: rest
  · have hShorter : rest.length < (before ++ old ++ rest).length := by
      have hPos := List.length_pos_iff.mpr hOld
      simp only [List.length_append]
      omega
    rcases exists_last_infix hOld hAgain with
      ⟨further, last, hRest, hLast⟩
    refine ⟨before ++ old ++ further, last, ?_, hLast⟩
    rw [hRest]
    simp only [List.append_assoc]
  · exact ⟨before, rest, rfl, hAgain⟩
termination_by cs.length

/- What stands around the last placeholder in the filled text. -/
theorem replaceFrom_around_last
    (hBegin : o ∉ os)
    (new before : List Char)
    {rest : List Char}
    (hLast : ¬ o :: os <:+: rest) :
    replaceFrom (o :: os) new 0 (before ++ (o :: os) ++ rest) =
      replaceFrom (o :: os) new 0 before ++ (new ++ rest) := by
  rw [List.append_assoc, List.cons_append,
    replaceFrom_append_cons hBegin, ← List.cons_append,
    replaceFrom_old_append, replaceFrom_of_not_infix new hLast]

------------------------------------------------------------
-- Pieces
------------------------------------------------------------

/- Each piece of a text is filled in apart from the others. -/
theorem splitAt_replaceFrom
    {sep : Char}
    (hOld : sep ∉ o :: os)
    (hNew : sep ∉ new)
    (cs : List Char) :
    splitAt sep (replaceFrom (o :: os) new 0 cs) =
      (splitAt sep cs).map (replaceFrom (o :: os) new 0) := by
  by_cases hMem : sep ∈ cs
  · rcases List.append_of_mem hMem with ⟨front, back, hSplit⟩
    have hFront : front.length < cs.length := by
      rw [hSplit, List.length_append, List.length_cons]
      omega
    have hBack : back.length < cs.length := by
      rw [hSplit, List.length_append, List.length_cons]
      omega
    rw [hSplit,
      replaceFrom_append_cons (List.not_mem_of_not_mem_cons hOld),
      replaceFrom_cons_of_ne (List.ne_of_not_mem_cons hOld),
      splitAt_append, splitAt_append, List.map_append,
      splitAt_replaceFrom hOld hNew front,
      splitAt_replaceFrom hOld hNew back]
  · have hFilled : sep ∉ replaceFrom (o :: os) new 0 cs :=
      fun hChar => (mem_replaceFrom hChar).elim hNew hMem
    rw [splitAt_of_not_mem hMem, splitAt_of_not_mem hFilled]
    rfl
termination_by cs.length

end Text

end ReleasePipeline
