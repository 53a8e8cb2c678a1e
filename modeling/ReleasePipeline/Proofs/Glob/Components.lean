import ReleasePipeline.Glob.Walk
import ReleasePipeline.Proofs.Glob.Reading
import ReleasePipeline.Proofs.Text.Pieces

/-
  This file proves when the components of a glob pattern can
  be read one by one.  A pattern that can be read as a whole
  is cut at its slashes, and each component is read on its
  own.  This succeeds unless a slash stands inside a set: then
  the set is cut in two, and its first half has no end.

  Key definitions include:
    * `Glob.SpellsAll`, `Glob.JamsIn`
    * `Glob.escapeChar`

  Main declarations:
    * `Glob.Takes.splits`, `Glob.Takes.jams`
    * `Glob.Spells.parts`, `Glob.Spells.jams`
    * `Glob.search_of_not_slashInSet`
    * `Glob.search_of_slashInSet`
    * `Glob.spells_escape`
-/

------------------------------------------------------------
-- Components
------------------------------------------------------------

namespace ReleasePipeline

namespace Glob

variable {fresh fresh' : Bool} {cs rest : List Char} {t : Token}
variable {p : Pattern}
variable {part : List Char} {others : List (List Char)}

/-
  Where a part of a pattern is not a set that spells a slash,
  it is either read in the same way when the pattern is cut at
  its slashes, or it ends the component that it is read in.
-/
theorem Takes.splits
    (hTakes : Takes fresh cs t fresh' rest)
    (hWhole : t.slashInSet = false)
    (hSplit : Text.splitAt '/' rest = part :: others) :
    (∃ text,
      Text.splitAt '/' cs = (text ++ part) :: others ∧
        Takes fresh (text ++ part) t fresh' part) ∨
    fresh' = true ∧
      ∃ text p,
        Text.splitAt '/' cs = text :: part :: others ∧
          Spells fresh text p := by
  cases hTakes with
  | anyChar =>
      exact .inl ⟨['?'],
        Text.splitAt_append_of_not_mem ['?'] (by decide) hSplit,
        .anyChar fresh part⟩
  | anyRun _ hSingle =>
      refine .inl ⟨['*'],
        Text.splitAt_append_of_not_mem ['*'] (by decide) hSplit,
        .anyRun fresh fun hStar => hSingle ?_⟩
      rcases Text.prefix_of_splitAt hSplit with ⟨tail, rfl⟩
      cases part with
      | nil => cases hStar
      | cons c part => exact hStar
  | below =>
      cases hSplit
      exact .inl ⟨['*', '*'], rfl, .below⟩
  | between =>
      refine .inr ⟨rfl, ['*', '*'], [.anyComponents], ?_,
        .cons .below (.nil true)⟩
      change Text.splitAt '/' (['*', '*'] ++ '/' :: rest) = _
      rw [Text.splitAt_append, hSplit]
      rfl
  | @set _ inner _ hSet =>
      have hInner : '/' ∉ inner := by
        rw [← hSet.slashInSet_iff, hWhole]
        exact Bool.false_ne_true
      have hText : '/' ∉ '[' :: (inner ++ [']']) := by
        simp [hInner]
      refine .inl ⟨'[' :: (inner ++ [']']), ?_, ?_⟩
      · rw [← Text.splitAt_append_of_not_mem _ hText hSplit,
          List.cons_append, List.append_assoc, List.singleton_append]
      · rw [List.cons_append, List.append_assoc, List.singleton_append]
        exact .set fresh hSet part
  | @literal _ c hPlain =>
      by_cases hSlash : c = '/'
      · subst hSlash
        refine .inr ⟨rfl, [], [], ?_, .nil fresh⟩
        rw [Text.splitAt, if_pos rfl, hSplit]
      · have hText : '/' ∉ [c] :=
          fun hMember => hSlash (List.mem_singleton.mp hMember).symm
        exact .inl ⟨[c], Text.splitAt_append_of_not_mem [c] hText hSplit,
          .literal fresh hPlain part⟩

/- A set that spells a slash has no end in its component. -/
theorem Takes.jams
    (hTakes : Takes fresh cs t fresh' rest)
    (hCut : t.slashInSet = true)
    (hSplit : Text.splitAt '/' cs = part :: others) :
    Jams fresh part := by
  cases hTakes with
  | anyChar => cases hCut
  | anyRun => cases hCut
  | below => cases hCut
  | between => cases hCut
  | literal => cases hCut
  | @set _ inner _ hSet =>
      rcases List.eq_append_cons_of_mem (hSet.slashInSet_iff.mp hCut) with
        ⟨front, back, rfl, hFront⟩
      have hPart : part = '[' :: front := by
        have hText : '/' ∉ '[' :: front := by simp [hFront]
        have hEq := Text.splitAt_append '/' ('[' :: front)
          (back ++ ']' :: rest)
        rw [Text.splitAt_of_not_mem hText, List.cons_append] at hEq
        rw [List.append_assoc, List.cons_append, hEq] at hSplit
        cases hSplit
        rfl
      subst hPart
      apply Jams.here
      cases hTake : takeSet? front with
      | none => rfl
      | some result =>
          rcases takeSet?_eq_some_iff.mp hTake with
            ⟨inner', hSet', hShort⟩
          exfalso
          apply hSet.not_append hSet' (result.2 ++ '/' :: back)
          rw [hShort]
          simp

/- Every component can be read on its own. -/
inductive SpellsAll : Bool → List (List Char) → Prop where
  | nil (fresh : Bool) : SpellsAll fresh []
  | cons
      {fresh : Bool}
      {part : List Char}
      {others : List (List Char)}
      {p : Pattern}
      (hPart : Spells fresh part p)
      (hOthers : SpellsAll true others) :
      SpellsAll fresh (part :: others)

/- A component jams, behind others that can be read. -/
inductive JamsIn : Bool → List (List Char) → Prop where
  | here
      {fresh : Bool}
      {part : List Char}
      (hPart : Jams fresh part)
      (others : List (List Char)) :
      JamsIn fresh (part :: others)
  | later
      {fresh : Bool}
      {part : List Char}
      {others : List (List Char)}
      {p : Pattern}
      (hPart : Spells fresh part p)
      (hOthers : JamsIn true others) :
      JamsIn fresh (part :: others)

/- Without a slash in a set, all components can be read. -/
theorem Spells.parts
    (hSpells : Spells fresh cs p)
    (hWhole : slashInSet p = false) :
    SpellsAll fresh (Text.splitAt '/' cs) := by
  induction hSpells with
  | nil fresh => exact .cons (.nil fresh) (.nil true)
  | @cons fresh fresh' cs rest t ts hTakes hRest ih =>
      rw [slashInSet, List.any_cons, Bool.or_eq_false_iff] at hWhole
      have hMore := ih hWhole.2
      cases hSplit : Text.splitAt '/' rest with
      | nil => exact absurd hSplit (Text.splitAt_ne_nil '/' rest)
      | cons part others =>
          rw [hSplit] at hMore
          rcases hTakes.splits hWhole.1 hSplit with
            ⟨text, hEq, hTakes'⟩ | ⟨rfl, text, q, hEq, hText⟩
          · rw [hEq]
            cases hMore with
            | cons hPart hOthers =>
                exact .cons (.cons hTakes' hPart) hOthers
          · rw [hEq]
            exact .cons hText hMore

/- With a slash in a set, some component jams. -/
theorem Spells.jams
    (hSpells : Spells fresh cs p)
    (hCut : slashInSet p = true) :
    JamsIn fresh (Text.splitAt '/' cs) := by
  induction hSpells with
  | nil fresh => cases hCut
  | @cons fresh fresh' cs rest t ts hTakes hRest ih =>
      cases hFirst : t.slashInSet with
      | true =>
          cases hSplit : Text.splitAt '/' cs with
          | nil => exact absurd hSplit (Text.splitAt_ne_nil '/' cs)
          | cons part others =>
              exact .here (hTakes.jams hFirst hSplit) others
      | false =>
          rw [slashInSet, List.any_cons, hFirst, Bool.false_or] at hCut
          have hMore := ih hCut
          cases hSplit : Text.splitAt '/' rest with
          | nil => exact absurd hSplit (Text.splitAt_ne_nil '/' rest)
          | cons part others =>
              rw [hSplit] at hMore
              rcases hTakes.splits hFirst hSplit with
                ⟨text, hEq, hTakes'⟩ | ⟨rfl, text, q, hEq, hText⟩
              · rw [hEq]
                cases hMore with
                | here hPart => exact .here (.later hTakes' hPart) others
                | later hPart hOthers =>
                    exact .later (.cons hTakes' hPart) hOthers
              · rw [hEq]
                exact .later hText hMore

------------------------------------------------------------
-- Reading the Components
------------------------------------------------------------

variable {parts : List (List Char)}

theorem parseAll_of_spellsAll (hAll : SpellsAll true parts) :
    ∃ ps, parseAll (parts.map String.ofList) = .ok ps := by
  induction parts with
  | nil => exact ⟨[], rfl⟩
  | cons part others ih =>
      cases hAll with
      | @cons _ _ _ p hPart hOthers =>
          rcases ih hOthers with ⟨ps, hRest⟩
          have hFirst : parse (String.ofList part) = .ok p := by
            rw [parse_eq_ok_iff, String.toList_ofList]
            exact hPart
          refine ⟨p :: ps, ?_⟩
          rw [List.map_cons, parseAll, hFirst, hRest]

theorem parseAll_of_jamsIn (hJams : JamsIn true parts) :
    ∃ stop,
      parseAll (parts.map String.ofList) =
        .error ⟨stop, .brackets⟩ := by
  induction parts with
  | nil => cases hJams
  | cons part others ih =>
      rw [List.map_cons, parseAll]
      cases hJams with
      | here hPart =>
          rw [← String.toList_ofList (l := part)] at hPart
          rcases parse_of_jams hPart with ⟨stop, hStop⟩
          refine ⟨stop, ?_⟩
          rw [hStop]
      | @later _ _ _ p hPart hOthers =>
          rcases ih hOthers with ⟨stop, hStop⟩
          have hFirst : parse (String.ofList part) = .ok p := by
            rw [parse_eq_ok_iff, String.toList_ofList]
            exact hPart
          refine ⟨stop, ?_⟩
          rw [hFirst, hStop]

theorem SpellsAll.dropLast (hAll : SpellsAll fresh parts) :
    SpellsAll fresh parts.dropLast := by
  induction hAll with
  | nil fresh => exact .nil fresh
  | @cons fresh part others p hPart hOthers ih =>
      cases others with
      | nil => exact .nil fresh
      | cons other others => exact .cons hPart ih

/- An empty component at the end is not the one that jams. -/
theorem JamsIn.dropLast
    (hJams : JamsIn fresh parts)
    (hLast : parts.getLast? = some []) :
    JamsIn fresh parts.dropLast := by
  induction hJams with
  | @here fresh part hPart others =>
      cases others with
      | nil =>
          cases hLast
          cases hPart with
          | later hTakes => cases hTakes
      | cons other others => exact .here hPart _
  | @later fresh part others p hPart hOthers ih =>
      cases others with
      | nil => cases hOthers
      | cons other others => exact .later hPart (ih hLast)

/- The components of a text are its pieces, without an empty end. -/
theorem componentTexts_eq (text : String) :
    componentTexts text =
      (if (Text.splitAt '/' text.toList).getLast? = some [] then
        (Text.splitAt '/' text.toList).dropLast
      else
        Text.splitAt '/' text.toList).map String.ofList := by
  unfold componentTexts Text.pieces
  dsimp only
  have hEmpty :
      ((Text.splitAt '/' text.toList).map String.ofList).getLast? =
          some "" ↔
        (Text.splitAt '/' text.toList).getLast? = some [] := by
    rw [List.getLast?_map, Option.map_eq_some_iff]
    constructor
    · rintro ⟨piece, hPiece, hText⟩
      rw [hPiece, String.ofList_injective hText]
    · exact fun hNil => ⟨[], hNil, rfl⟩
  by_cases hLast : (Text.splitAt '/' text.toList).getLast? = some []
  · rw [if_pos (hEmpty.mpr hLast), if_pos hLast, List.map_dropLast]
  · rw [if_neg (mt hEmpty.mp hLast), if_neg hLast]

theorem parseAll_componentTexts_of_spells
    {text : String}
    (hSpells : Spells true text.toList p)
    (hWhole : slashInSet p = false) :
    ∃ ps, parseAll (componentTexts text) = .ok ps := by
  have hAll := hSpells.parts hWhole
  rw [componentTexts_eq]
  split
  · exact parseAll_of_spellsAll hAll.dropLast
  · exact parseAll_of_spellsAll hAll

theorem parseAll_componentTexts_of_jams
    {text : String}
    (hSpells : Spells true text.toList p)
    (hCut : slashInSet p = true) :
    ∃ stop,
      parseAll (componentTexts text) = .error ⟨stop, .brackets⟩ := by
  have hJams := hSpells.jams hCut
  rw [componentTexts_eq]
  split
  · next hLast => exact parseAll_of_jamsIn (hJams.dropLast hLast)
  · exact parseAll_of_jamsIn hJams

------------------------------------------------------------
-- Searching
------------------------------------------------------------

/- Without the slash at its start, a pattern keeps its sets. -/
theorem Spells.tail_of_slash
    (hSpells : Spells fresh ('/' :: rest) p) :
    ∃ q, Spells true rest q ∧ slashInSet q = slashInSet p := by
  cases hSpells with
  | cons hTakes hRest =>
      cases hTakes with
      | literal hPlain => exact ⟨_, hRest, rfl⟩

/- What is cut into components when a pattern is searched for. -/
theorem exists_relative
    {text : String}
    (hSpells : Spells true text.toList p) :
    ∃ q,
      Spells true
          (if Path.isAbsolute text then
            String.ofList (text.toList.drop 1)
          else text).toList q ∧
        slashInSet q = slashInSet p := by
  split
  · next hAbsolute =>
      unfold Path.isAbsolute at hAbsolute
      cases hChars : text.toList with
      | nil =>
          rw [hChars] at hAbsolute
          cases hAbsolute
      | cons c rest =>
          rw [hChars] at hAbsolute hSpells
          have hSlash : c = '/' := by simpa using hAbsolute
          subst hSlash
          rw [String.toList_ofList]
          exact hSpells.tail_of_slash
  · exact ⟨p, hSpells, rfl⟩

/-
  A pattern that can be read is searched for, if no set of it
  spells a slash.
-/
theorem search_of_not_slashInSet
    {text : String}
    (hSpells : Spells true text.toList p)
    (hWhole : slashInSet p = false)
    (t : FileTree) :
    ∃ paths, search t text = .ok paths := by
  rcases exists_relative hSpells with ⟨q, hRelative, hSets⟩
  rcases parseAll_componentTexts_of_spells hRelative
      (hSets.trans hWhole) with
    ⟨ps, hAll⟩
  unfold search
  rw [parse_eq_ok_iff.mpr hSpells]
  dsimp only
  rw [hAll]
  exact ⟨_, rfl⟩

/- Otherwise the search fails, whatever there is to be found. -/
theorem search_of_slashInSet
    {text : String}
    (hSpells : Spells true text.toList p)
    (hCut : slashInSet p = true) :
    ∃ stop, ∀ t : FileTree,
      search t text = .error ⟨stop, .brackets⟩ := by
  rcases exists_relative hSpells with ⟨q, hRelative, hSets⟩
  rcases parseAll_componentTexts_of_jams hRelative
      (hSets.trans hCut) with
    ⟨stop, hAll⟩
  refine ⟨stop, fun t => ?_⟩
  unfold search
  rw [parse_eq_ok_iff.mpr hSpells]
  dsimp only
  rw [hAll]

------------------------------------------------------------
-- Escaped Texts
------------------------------------------------------------

/- The characters that stand for exactly one character. -/
def escapeChar (c : Char) : List Char :=
  if c = '?' ∨ c = '*' ∨ c = '[' ∨ c = ']' then ['[', c, ']'] else [c]

theorem toList_escape (text : String) :
    (escape text).toList = text.toList.flatMap escapeChar := by
  rw [escape, String.toList_ofList]
  rfl

/- An escaped character is a part of a pattern, and no slash in a set. -/
theorem takes_escapeChar
    (fresh : Bool)
    (c : Char)
    (rest : List Char) :
    ∃ t fresh',
      Takes fresh (escapeChar c ++ rest) t fresh' rest ∧
        t.slashInSet = false := by
  unfold escapeChar
  split
  · next hSpecial =>
      have hMark : c ≠ '!' := by
        rintro rfl
        revert hSpecial
        decide
      have hSlash : (c == '/') = false := by
        rw [beq_eq_false_iff_ne]
        rintro rfl
        revert hSpecial
        decide
      have hSet : Encloses [c] (.within (members [c])) :=
        .within List.not_mem_nil hMark
      refine ⟨_, false, .set fresh hSet rest, ?_⟩
      have hMembers : members [c] = [.single c] := rfl
      rw [Token.slashInSet, hMembers]
      simp [Member.spells, hSlash]
  · next hPlain =>
      simp only [not_or] at hPlain
      exact ⟨.literal c, c == '/',
        .literal fresh ⟨hPlain.1, hPlain.2.1, hPlain.2.2.1⟩ rest, rfl⟩

/-
  A pattern below an escaped directory can be read, and has
  the sets of the pattern beside those of single characters.
-/
theorem spells_escape
    (hSpells : Spells true rest p)
    (text : List Char)
    (fresh : Bool) :
    ∃ q,
      Spells fresh (text.flatMap escapeChar ++ '/' :: rest) q ∧
        slashInSet q = slashInSet p := by
  induction text generalizing fresh with
  | nil =>
      have hPlain : '/' ≠ '?' ∧ '/' ≠ '*' ∧ '/' ≠ '[' := by decide
      exact ⟨.literal '/' :: p,
        .cons (.literal fresh hPlain rest) hSpells, rfl⟩
  | cons c text ih =>
      rw [List.flatMap_cons, List.append_assoc]
      rcases takes_escapeChar fresh c
          (text.flatMap escapeChar ++ '/' :: rest) with
        ⟨t, fresh', hTakes, hWhole⟩
      rcases ih fresh' with ⟨q, hRest, hSets⟩
      refine ⟨t :: q, .cons hTakes hRest, ?_⟩
      rw [slashInSet, List.any_cons, hWhole, Bool.false_or]
      exact hSets

end Glob

end ReleasePipeline
