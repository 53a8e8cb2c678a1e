import Mathlib.Data.List.TakeWhile
import ReleasePipeline.Proofs.Files.Path
import ReleasePipeline.Proofs.Text.Placeholders

/-
  This file proves where the name of a file and its extension
  come from.  The name stays when the path is put below a
  directory, and a placeholder in the path is filled in inside
  the name.  The extension is what stands behind the last dot,
  unless nothing stands in front of it.

  Main declarations:
    * `Path.fileName?_eq_some_iff`
    * `Path.fileName?_join`
    * `Path.fileName?_replaceAll`
    * `Path.extensionOfName_append`
-/

------------------------------------------------------------
-- Last Names
------------------------------------------------------------

namespace ReleasePipeline

namespace Path

variable {p name : String}

/- The slash of the root adds no component to the names. -/
theorem filterMap_rawPieces (p : String) :
    (rawPieces p).filterMap pieceComponent =
      (Text.splitAt '/' p.toList).filterMap pieceComponent := by
  unfold rawPieces
  split
  · next cs hChars =>
      rw [hChars, Text.splitAt, if_pos rfl, List.filterMap_cons]
      rfl
  · rfl

/- The file name is what the last of the pieces stands for. -/
theorem fileName?_eq_some_iff :
    fileName? p = some name ↔
      ((Text.splitAt '/' p.toList).filterMap pieceComponent).getLast? =
        some (.name name) := by
  have hStart (component : Component)
      (hMem : component ∈
        if isAbsolute p then [Component.root]
        else if startsHere p then [.here] else []) :
      component ≠ .name name := by
    intro hEq
    subst hEq
    split at hMem
    · simp at hMem
    · split at hMem <;> simp at hMem
  unfold fileName? components
  dsimp only
  rw [filterMap_rawPieces, List.getLast?_append]
  cases hLast :
      ((Text.splitAt '/' p.toList).filterMap
        pieceComponent).getLast? with
  | some component =>
      cases component <;> simp
  | none =>
      rw [Option.none_or]
      refine ⟨fun hName => ?_, fun hName => by cases hName⟩
      split at hName
      · next text hText =>
          cases hName
          exact absurd rfl (hStart _ (List.mem_of_getLast? hText))
      · cases hName

------------------------------------------------------------
-- Below a Directory
------------------------------------------------------------

/- The pieces of a path come last when it is put below a base. -/
theorem exists_splitAt_join
    (base p : String) :
    ∃ front,
      Text.splitAt '/' (join base p).toList =
        front ++ Text.splitAt '/' p.toList := by
  unfold join
  split
  · exact ⟨[], rfl⟩
  · split
    · next hOpen =>
        rw [String.toList_append]
        cases hLast : base.toList.getLast? with
        | none =>
            rw [List.getLast?_eq_none_iff.mp hLast]
            exact ⟨[], rfl⟩
        | some c =>
            rw [hLast] at hOpen
            have hSlash : c = '/' := by simpa using hOpen
            subst hSlash
            rcases List.getLast?_eq_some_iff.mp hLast with
              ⟨front, hBase⟩
            rw [hBase, List.append_assoc, List.singleton_append,
              Text.splitAt_append]
            exact ⟨_, rfl⟩
    · have hSlash : "/".toList = ['/'] := rfl
      rw [String.toList_append, String.toList_append, hSlash,
        List.append_assoc, List.singleton_append, Text.splitAt_append]
      exact ⟨_, rfl⟩

/- A path has its file name below any base. -/
theorem fileName?_join
    (base : String)
    (hName : fileName? p = some name) :
    fileName? (join base p) = some name := by
  rw [fileName?_eq_some_iff] at hName ⊢
  rcases exists_splitAt_join base p with ⟨front, hPieces⟩
  rw [hPieces, List.filterMap_append, List.getLast?_append, hName,
    Option.some_or]

------------------------------------------------------------
-- Placeholders
------------------------------------------------------------

/-
  A text to be replaced inside of the pieces of a path.  It is
  longer than the step to the parent, and what it begins with
  does not come back in it.
-/
structure IsPlaceholder (old : String) : Prop where
  begins : ∃ o os, old.toList = o :: os ∧ o ∉ os
  long : 2 < old.toList.length
  no_slash : '/' ∉ old.toList

/- What becomes of a component when its name is filled in. -/
def Component.fill (old new : String) : Component → Component
  | .name text => .name (Text.replaceAll text old new)
  | component => component

/- No name stands in the step to the parent. -/
theorem IsName.not_infix_dots
    {new : String}
    (hNew : IsName new) :
    ¬ new.toList <:+: ['.', '.'] := by
  intro hInside
  have hIdle := hNew.not_idle
  have hUp := hNew.not_up
  simp only [List.infix_cons_iff, List.prefix_cons_iff,
    List.prefix_nil, List.infix_nil] at hInside
  rcases hInside with
    (hNil | ⟨rest, hChars, hNil | ⟨_, hRest, hNil⟩⟩) |
    (hNil | ⟨rest, hChars, hNil⟩) | hNil
  all_goals simp_all [isIdle]

/- Any other text without a slash is a name. -/
theorem isName_of_not_infix_dots
    {text : String}
    (hSlash : '/' ∉ text.toList)
    (hDots : ¬ text.toList <:+: ['.', '.']) :
    IsName text := by
  refine ⟨?_, fun hUp => hDots (hUp ▸ List.infix_refl _), hSlash⟩
  apply Bool.eq_false_iff.mpr
  intro hIdle
  unfold isIdle at hIdle
  rw [Bool.or_eq_true, beq_iff_eq, beq_iff_eq] at hIdle
  rcases hIdle with hNil | hDot
  · exact hDots (hNil ▸ List.nil_infix)
  · apply hDots
    rw [hDot]
    exact (List.prefix_append ['.'] ['.']).isInfix

/- What is filled in stands in the text. -/
theorem infix_replaceAll
    {old new text : String}
    (hOld : IsPlaceholder old)
    (hOccurs : old.toList <:+: text.toList) :
    new.toList <:+: (Text.replaceAll text old new).toList := by
  rcases hOld.begins with ⟨o, os, hChars, hBegin⟩
  rw [hChars] at hOccurs
  rcases Text.exists_last_infix (List.cons_ne_nil o os) hOccurs with
    ⟨before, rest, hText, hLast⟩
  rw [Text.toList_replaceAll, hChars, hText,
    Text.replaceFrom_around_last hBegin new.toList before hLast,
    ← List.append_assoc]
  exact List.infix_append _ _ _

/- A piece stands for what it stood for, filled in. -/
theorem pieceComponent_replaceAll
    {old new text : String}
    (hOld : IsPlaceholder old)
    (hNew : IsName new)
    (hSlash : '/' ∉ text.toList) :
    pieceComponent (Text.replaceAll text old new).toList =
      (pieceComponent text.toList).map (Component.fill old new) := by
  rcases hOld.begins with ⟨o, os, hChars, -⟩
  by_cases hOccurs : old.toList <:+: text.toList
  · have hText : IsName text :=
      isName_of_not_infix_dots hSlash fun hDots =>
        absurd (hOccurs.trans hDots).length_le (not_le.mpr hOld.long)
    have hFilledSlash : '/' ∉ (Text.replaceAll text old new).toList :=
      Text.not_mem_replaceAll hNew.no_slash hSlash
    have hFilled : IsName (Text.replaceAll text old new) :=
      isName_of_not_infix_dots hFilledSlash fun hDots =>
        hNew.not_infix_dots ((infix_replaceAll hOld hOccurs).trans hDots)
    rw [pieceComponent_of_isName hText,
      pieceComponent_of_isName hFilled]
    rfl
  · have hSame : Text.replaceAll text old new = text := by
      unfold Text.replaceAll
      rw [hChars] at hOccurs ⊢
      rw [Text.replaceFrom_of_not_infix _ hOccurs, String.ofList_toList]
    rw [hSame]
    cases hPiece : pieceComponent text.toList with
    | none => rfl
    | some component =>
        cases component with
        | root => rfl
        | here => rfl
        | up => rfl
        | name inner =>
            have hInner : inner = text := by
              unfold pieceComponent at hPiece
              split at hPiece
              · cases hPiece
              · split at hPiece
                · cases hPiece
                · cases hPiece
                  exact String.ofList_toList
            subst hInner
            exact congrArg (fun t => some (Component.name t)) hSame.symm

/- The name of a file is filled in with its path. -/
theorem fileName?_replaceAll
    {old new : String}
    (hOld : IsPlaceholder old)
    (hNew : IsName new)
    (hName : fileName? p = some name) :
    fileName? (Text.replaceAll p old new) =
      some (Text.replaceAll name old new) := by
  rcases hOld.begins with ⟨o, os, hChars, -⟩
  have hSlash : '/' ∉ o :: os := hChars ▸ hOld.no_slash
  have hPieces :
      ((Text.splitAt '/' p.toList).map
          (Text.replaceFrom old.toList new.toList 0)).filterMap
          pieceComponent =
        ((Text.splitAt '/' p.toList).filterMap pieceComponent).map
          (Component.fill old new) := by
    rw [List.filterMap_map, List.map_filterMap]
    apply List.filterMap_congr
    intro piece hPiece
    have hPart : '/' ∉ (String.ofList piece).toList := by
      rw [String.toList_ofList]
      exact Text.not_mem_of_mem_splitAt hPiece
    have hFill := pieceComponent_replaceAll hOld hNew hPart
    rwa [Text.toList_replaceAll, String.toList_ofList] at hFill
  rw [fileName?_eq_some_iff] at hName ⊢
  have hSplit :
      Text.splitAt '/' (Text.replaceAll p old new).toList =
        (Text.splitAt '/' p.toList).map
          (Text.replaceFrom old.toList new.toList 0) := by
    rw [Text.toList_replaceAll, hChars,
      Text.splitAt_replaceFrom hSlash hNew.no_slash]
  rw [hSplit, hPieces, List.getLast?_map, hName]
  rfl

------------------------------------------------------------
-- Extensions
------------------------------------------------------------

theorem extensionOfName_of_not_mem
    {name : List Char}
    (hDot : '.' ∉ name) :
    extensionOfName name = none := by
  have hMissing : '.' ∉ name.reverse := mt List.mem_reverse.mp hDot
  have hTake : name.reverse.takeWhile (· != '.') = name.reverse :=
    List.takeWhile_eq_self_iff.mpr (Text.bne_of_not_mem hMissing)
  unfold extensionOfName
  dsimp only
  rw [hTake, List.length_reverse]
  exact if_pos (.inl rfl)

/- The last dot of a name divides it unless nothing is before it. -/
theorem extensionOfName_append
    (stem : List Char)
    {ext : List Char}
    (hDot : '.' ∉ ext) :
    extensionOfName (stem ++ '.' :: ext) =
      if stem = [] then none else some ext := by
  have hMissing : '.' ∉ ext.reverse := mt List.mem_reverse.mp hDot
  have hReverse :
      (stem ++ '.' :: ext).reverse =
        ext.reverse ++ '.' :: stem.reverse := by
    simp
  have hLonger : ¬ ext.length = (stem ++ '.' :: ext).length := by
    simp only [List.length_append, List.length_cons]
    omega
  unfold extensionOfName
  dsimp only
  rw [hReverse, Text.takeWhile_append_cons hMissing,
    Text.dropWhile_append_cons hMissing, List.length_reverse,
    List.reverse_reverse, List.drop_one, List.tail_cons]
  by_cases hStem : stem = []
  · rw [if_pos (.inr (List.reverse_eq_nil_iff.mpr hStem)), if_pos hStem]
  · have hReversed : stem.reverse ≠ [] :=
      mt List.reverse_eq_nil_iff.mp hStem
    rw [if_neg (not_or.mpr ⟨hLonger, hReversed⟩), if_neg hStem]

end Path

end ReleasePipeline
