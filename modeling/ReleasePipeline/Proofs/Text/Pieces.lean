import ReleasePipeline.Text.Basic

/-
  This file proves how a text is recovered from its pieces.
  Splitting loses nothing, a separator between two texts
  splits them apart, and one separator put in the place of
  another leaves the pieces as they are.

  Main declarations:
    * `Text.splitAt_append`
    * `Text.splitAt_append_of_not_mem`
    * `Text.takeWhile_append_cons`, `Text.dropWhile_append_cons`
    * `Text.prefix_of_splitAt`
    * `Text.splitAt_map`
    * `Text.pieces_replaceAll`
    * `Text.pieces_injective`
-/

------------------------------------------------------------
-- Splitting Characters
------------------------------------------------------------

namespace ReleasePipeline

namespace Text

/- A text without the separator is a single piece. -/
theorem splitAt_of_not_mem
    {sep : Char}
    {cs : List Char}
    (hMissing : sep ∉ cs) :
    splitAt sep cs = [cs] := by
  induction cs with
  | nil => rfl
  | cons c cs ih =>
      have hHead : ¬ c = sep := by
        intro hEq
        exact hMissing (hEq ▸ List.mem_cons_self)
      have hTail : sep ∉ cs :=
        fun hMem => hMissing (List.mem_cons_of_mem c hMem)
      unfold splitAt
      rw [if_neg hHead, ih hTail]

/- The pieces on both sides of a separator. -/
theorem splitAt_append
    (sep : Char)
    (cs ds : List Char) :
    splitAt sep (cs ++ sep :: ds) = splitAt sep cs ++ splitAt sep ds := by
  induction cs with
  | nil => simp [splitAt]
  | cons c cs ih =>
      rw [List.cons_append, splitAt, ih, splitAt]
      by_cases hHead : c = sep
      · rw [if_pos hHead, if_pos hHead, List.cons_append]
      · rw [if_neg hHead, if_neg hHead]
        cases hPieces : splitAt sep cs with
        | nil => exact absurd hPieces (splitAt_ne_nil sep cs)
        | cons piece pieces => rfl

/- Separators at the end only add empty pieces. -/
theorem splitAt_append_replicate
    (sep : Char)
    (cs : List Char)
    (n : Nat) :
    splitAt sep (cs ++ List.replicate n sep) =
      splitAt sep cs ++ List.replicate n [] := by
  induction n with
  | zero => simp
  | succ n ih =>
      rw [List.replicate_succ', List.replicate_succ',
        ← List.append_assoc, splitAt_append, ih, List.append_assoc]
      rfl

/- A text without the separator goes into the first piece behind it. -/
theorem splitAt_append_of_not_mem
    {sep : Char}
    (front : List Char)
    {cs piece : List Char}
    {pieces : List (List Char)}
    (hMissing : sep ∉ front)
    (hSplit : splitAt sep cs = piece :: pieces) :
    splitAt sep (front ++ cs) = (front ++ piece) :: pieces := by
  induction front with
  | nil => exact hSplit
  | cons c front ih =>
      have hHead : ¬ c = sep :=
        fun hEq => hMissing (hEq ▸ List.mem_cons_self)
      have hTail : sep ∉ front :=
        fun hMem => hMissing (List.mem_cons_of_mem c hMem)
      rw [List.cons_append, splitAt, if_neg hHead, ih hTail]
      rfl

/- A text begins with its first piece. -/
theorem prefix_of_splitAt
    {sep : Char}
    {cs piece : List Char}
    {pieces : List (List Char)}
    (hSplit : splitAt sep cs = piece :: pieces) :
    piece <+: cs := by
  have hJoin := intercalate_splitAt sep cs
  rw [hSplit] at hJoin
  rw [← hJoin]
  cases pieces with
  | nil => simp [List.intercalate]
  | cons other pieces => simp [List.intercalate]

theorem bne_of_not_mem
    {sep : Char}
    {cs : List Char}
    (hMissing : sep ∉ cs) :
    ∀ c ∈ cs, (c != sep) = true := by
  intro c hMem
  rw [bne_iff_ne]
  exact fun hIs => hMissing (hIs ▸ hMem)

/- The text in front of the first separator, and the rest. -/
theorem takeWhile_append_cons
    {sep : Char}
    {cs : List Char}
    (hMissing : sep ∉ cs)
    (ds : List Char) :
    (cs ++ sep :: ds).takeWhile (· != sep) = cs := by
  rw [List.takeWhile_append_of_pos (bne_of_not_mem hMissing),
    List.takeWhile_cons_of_neg (by simp), List.append_nil]

theorem dropWhile_append_cons
    {sep : Char}
    {cs : List Char}
    (hMissing : sep ∉ cs)
    (ds : List Char) :
    (cs ++ sep :: ds).dropWhile (· != sep) = sep :: ds := by
  rw [List.dropWhile_append_of_pos (bne_of_not_mem hMissing),
    List.dropWhile_cons_of_neg (by simp)]

/-
  Where one separator is put in the place of another, the
  pieces stay.  The text may not have the new one in it yet.
-/
theorem splitAt_map
    {old new : Char}
    {cs : List Char}
    (hNew : new ∉ cs) :
    splitAt new (cs.map fun c => if c = old then new else c) =
      splitAt old cs := by
  induction cs with
  | nil => rfl
  | cons c cs ih =>
      have hTail : new ∉ cs :=
        fun hMem => hNew (List.mem_cons_of_mem c hMem)
      rw [List.map_cons, splitAt, splitAt, ih hTail]
      by_cases hHead : c = old
      · rw [if_pos hHead, if_pos rfl, if_pos hHead]
      · have hOther : ¬ c = new := by
          intro hEq
          exact hNew (hEq ▸ List.mem_cons_self)
        rw [if_neg hHead, if_neg hOther, if_neg hHead]

/- Any character but the separator is in one of the pieces. -/
theorem exists_mem_splitAt
    {sep c : Char}
    {cs : List Char}
    (hMem : c ∈ cs)
    (hNe : c ≠ sep) :
    ∃ piece ∈ splitAt sep cs, c ∈ piece := by
  induction cs with
  | nil => cases hMem
  | cons d cs ih =>
      rw [splitAt]
      rcases List.mem_cons.mp hMem with rfl | hTail
      · rw [if_neg hNe]
        split
        · exact ⟨_, List.mem_cons_self, List.mem_cons_self⟩
        · exact ⟨_, List.mem_cons_self, List.mem_cons_self⟩
      · rcases ih hTail with ⟨piece, hPiece, hChar⟩
        split
        · exact ⟨piece, List.mem_cons_of_mem _ hPiece, hChar⟩
        · split
          · next hNil =>
              rw [hNil] at hPiece
              cases hPiece
          · next first pieces hSplit =>
              rw [hSplit] at hPiece
              rcases List.mem_cons.mp hPiece with rfl | hLater
              · exact ⟨_, List.mem_cons_self,
                  List.mem_cons_of_mem d hChar⟩
              · exact ⟨piece, List.mem_cons_of_mem _ hLater, hChar⟩

------------------------------------------------------------
-- Replacing a Character
------------------------------------------------------------

/- To replace a single character is to replace it everywhere. -/
theorem replaceFrom_single
    (old new : Char)
    (cs : List Char) :
    replaceFrom [old] [new] 0 cs =
      cs.map fun c => if c = old then new else c := by
  induction cs with
  | nil => rfl
  | cons c cs ih =>
      unfold replaceFrom
      by_cases hHead : c = old
      · simp [hHead, ih]
      · have hOther : ¬ old = c := fun hEq => hHead hEq.symm
        simp [hHead, hOther, ih]

------------------------------------------------------------
-- Splitting Texts
------------------------------------------------------------

variable {sep : Char} {s t : String}

/- A text is known by its pieces. -/
theorem pieces_injective (hPieces : pieces sep s = pieces sep t) :
    s = t := by
  have hSplit : splitAt sep s.toList = splitAt sep t.toList :=
    (List.map_inj_right fun _ _ hEq => String.ofList_injective hEq).mp
      hPieces
  apply String.toList_inj.mp
  rw [← intercalate_splitAt sep s.toList, hSplit,
    intercalate_splitAt]

theorem pieces_of_not_mem (hMissing : sep ∉ s.toList) :
    pieces sep s = [s] := by
  unfold pieces
  rw [splitAt_of_not_mem hMissing, List.map_cons,
    String.ofList_toList, List.map_nil]

/- A text that is the separator splits what is around it. -/
theorem pieces_append
    {middle : String}
    (hMiddle : middle.toList = [sep])
    (s t : String) :
    pieces sep (s ++ middle ++ t) = pieces sep s ++ pieces sep t := by
  unfold pieces
  rw [String.toList_append, String.toList_append, List.append_assoc,
    hMiddle, List.singleton_append, splitAt_append, List.map_append]

/- A separator that takes the place of another splits alike. -/
theorem pieces_replaceAll
    {old new : String}
    {c d : Char}
    (hOld : old.toList = [c])
    (hNew : new.toList = [d])
    (hMissing : d ∉ s.toList) :
    pieces d (replaceAll s old new) = pieces c s := by
  unfold pieces replaceAll
  rw [String.toList_ofList, hOld, hNew, replaceFrom_single,
    splitAt_map hMissing]

end Text

end ReleasePipeline
