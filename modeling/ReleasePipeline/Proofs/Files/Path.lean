import ReleasePipeline.Files.Path
import ReleasePipeline.Proofs.Text.Pieces

/-
  This file proves what a path is made of when a name is put
  at its end.  The path has the pieces that it had before, and
  the name as one piece more; an empty piece behind a slash at
  its end gives way to the name.

  Key definitions include:
    * `Path.IsName`
    * `Path.EndsNamed`
    * `Path.Above`

  Main declarations:
    * `Path.join_of_endsNamed`
    * `Path.rawPieces_child`
    * `Path.rawPieces_join`
    * `Path.components_foldl_join`
-/

------------------------------------------------------------
-- Names
------------------------------------------------------------

namespace ReleasePipeline

namespace Path

/- A text that names something in a directory. -/
structure IsName (name : String) : Prop where
  not_idle : isIdle name.toList = false
  not_up : name.toList ≠ ['.', '.']
  no_slash : '/' ∉ name.toList

/- A path that does not end in a slash. -/
def EndsNamed (base : String) : Prop :=
  ∃ c, base.toList.getLast? = some c ∧ c ≠ '/'

theorem IsName.ne_nil
    {name : String}
    (hName : IsName name) :
    name.toList ≠ [] := by
  intro hNil
  have hIdle := hName.not_idle
  rw [hNil] at hIdle
  cases hIdle

theorem isAbsolute_of_isName
    {name : String}
    (hName : IsName name) :
    isAbsolute name = false := by
  unfold isAbsolute
  cases hChars : name.toList with
  | nil => rfl
  | cons c cs =>
      have hHead : c ≠ '/' := by
        intro hSlash
        apply hName.no_slash
        rw [hChars, hSlash]
        exact List.mem_cons_self
      simpa using hHead

/- A slash is put before a name unless there is one. -/
theorem join_of_endsNamed
    {base name : String}
    (hBase : EndsNamed base)
    (hName : IsName name) :
    join base name = base ++ "/" ++ name := by
  rcases hBase with ⟨c, hLast, hSlash⟩
  have hClosed : ¬ base.toList.getLast?.all (· == '/') = true := by
    rw [hLast]
    simpa using hSlash
  unfold join
  rw [isAbsolute_of_isName hName, if_neg hClosed]
  rfl

------------------------------------------------------------
-- Children
------------------------------------------------------------

theorem EndsNamed.ne_nil
    {base : String}
    (hBase : EndsNamed base) :
    base.toList ≠ [] := by
  rcases hBase with ⟨c, hLast, -⟩
  intro hNil
  rw [hNil] at hLast
  cases hLast

/- What follows a text does not change how it starts. -/
theorem isAbsolute_append
    {base : String}
    (hBase : base.toList ≠ [])
    (rest : String) :
    isAbsolute (base ++ rest) = isAbsolute base := by
  unfold isAbsolute
  rw [String.toList_append]
  cases hChars : base.toList with
  | nil => exact absurd hChars hBase
  | cons c cs => rfl

/-
  The pieces of a path are those of its characters, apart from
  the slash of the root, whatever follows them.
-/
theorem exists_body
    {base : String}
    (hBase : base.toList ≠ []) :
    ∃ lead body,
      base.toList = lead ++ body ∧
      rawPieces base = Text.splitAt '/' body ∧
      ∀ rest,
        rawPieces (base ++ rest) =
          Text.splitAt '/' (body ++ rest.toList) := by
  have hBody :
      ∃ lead body,
        base.toList = lead ++ body ∧
        ∀ rest,
          rawPieces (base ++ rest) =
            Text.splitAt '/' (body ++ rest.toList) := by
    cases hChars : base.toList with
    | nil => exact absurd hChars hBase
    | cons c cs =>
        by_cases hRoot : c = '/'
        · subst hRoot
          refine ⟨['/'], cs, rfl, fun rest => ?_⟩
          unfold rawPieces
          rw [String.toList_append, hChars]
          rfl
        · refine ⟨[], c :: cs, rfl, fun rest => ?_⟩
          unfold rawPieces
          rw [String.toList_append, hChars]
          split
          · next hSlash =>
              simp only [List.cons_append, List.cons.injEq] at hSlash
              exact absurd hSlash.1 hRoot
          · rfl
  rcases hBody with ⟨lead, body, hChars, hPieces⟩
  refine ⟨lead, body, hChars, ?_, hPieces⟩
  have hSelf := hPieces ""
  rwa [String.append_empty, String.toList_empty, List.append_nil]
    at hSelf

/- A name below a base is one piece more. -/
theorem rawPieces_child
    {base name : String}
    (hBase : EndsNamed base)
    (hName : IsName name) :
    rawPieces (base ++ "/" ++ name) = rawPieces base ++ [name.toList] := by
  rcases exists_body hBase.ne_nil with ⟨lead, body, -, hSelf, hPieces⟩
  have hRest : ("/" ++ name).toList = '/' :: name.toList := by
    rw [String.toList_append]
    rfl
  rw [String.append_assoc, hPieces, hRest, Text.splitAt_append,
    Text.splitAt_of_not_mem hName.no_slash, hSelf]

/- What is found above a path by going to parents. -/
inductive Above (q : String) : String → Prop where
  | parent
      {p : String}
      (hParent : parent? p = some q) :
      Above q p
  | further
      {p above : String}
      (hParent : parent? p = some above)
      (hAbove : Above q above) :
      Above q p

------------------------------------------------------------
-- Joined Names
------------------------------------------------------------

/- A name that is joined to a base starts where the base does. -/
theorem isAbsolute_join
    (base : String)
    {name : String}
    (hName : IsName name) :
    isAbsolute (join base name) = isAbsolute base := by
  unfold join
  rw [isAbsolute_of_isName hName]
  by_cases hEmpty : base.toList = []
  · rw [String.toList_eq_nil_iff.mp hEmpty]
    exact isAbsolute_of_isName hName
  · by_cases hOpen : base.toList.getLast?.all (· == '/') = true
    · rw [if_pos hOpen]
      exact isAbsolute_append hEmpty name
    · rw [if_neg hOpen]
      change isAbsolute (base ++ "/" ++ name) = _
      rw [String.append_assoc, isAbsolute_append hEmpty]

/- Behind a slash, a name takes the place of the empty piece. -/
theorem rawPieces_append_of_open
    {base name : String}
    (hOpen : base.toList.getLast? = some '/')
    (hName : IsName name) :
    ∃ front,
      rawPieces base = front ++ [[]] ∧
      rawPieces (base ++ name) = front ++ [name.toList] := by
  have hBase : base.toList ≠ [] := by
    intro hNil
    rw [hNil] at hOpen
    cases hOpen
  have hSingle := Text.splitAt_of_not_mem hName.no_slash
  rcases exists_body hBase with ⟨lead, body, hChars, hSelf, hPieces⟩
  rw [hSelf, hPieces]
  by_cases hBody : body = []
  · refine ⟨[], ?_, ?_⟩
    · rw [hBody]
      rfl
    · rw [hBody, List.nil_append, hSingle]
      rfl
  · have hEnd : body.getLast? = some '/' := by
      rw [hChars, List.getLast?_append,
        List.getLast?_eq_some_getLast hBody] at hOpen
      rw [List.getLast?_eq_some_getLast hBody]
      exact hOpen
    rcases List.getLast?_eq_some_iff.mp hEnd with ⟨front, rfl⟩
    refine ⟨Text.splitAt '/' front, ?_, ?_⟩
    · exact Text.splitAt_append '/' front []
    · rw [List.append_assoc, List.singleton_append,
        Text.splitAt_append, hSingle]

/- A name that is joined to a base is its last piece. -/
theorem rawPieces_join
    (base : String)
    {name : String}
    (hName : IsName name) :
    ∃ front,
      (rawPieces base = front ∨ rawPieces base = front ++ [[]]) ∧
      rawPieces (join base name) = front ++ [name.toList] := by
  cases hLast : base.toList.getLast? with
  | none =>
      have hEmpty : base = "" :=
        String.toList_eq_nil_iff.mp (List.getLast?_eq_none_iff.mp hLast)
      have hJoin : join base name = name := by
        unfold join
        rw [isAbsolute_of_isName hName, hEmpty]
        rfl
      refine ⟨[], .inr (by rw [hEmpty]; rfl), ?_⟩
      rw [hJoin]
      unfold rawPieces
      split
      · next cs hChars =>
          have hSlash : '/' ∈ name.toList := by
            rw [hChars]
            exact List.mem_cons_self
          exact absurd hSlash hName.no_slash
      · exact Text.splitAt_of_not_mem hName.no_slash
  | some c =>
      by_cases hSlash : c = '/'
      · rw [hSlash] at hLast
        have hJoin : join base name = base ++ name := by
          unfold join
          rw [isAbsolute_of_isName hName, hLast]
          rfl
        rcases rawPieces_append_of_open hLast hName with
          ⟨front, hBase, hPieces⟩
        exact ⟨front, .inr hBase, hJoin ▸ hPieces⟩
      · have hBase : EndsNamed base := ⟨c, hLast, hSlash⟩
        rw [join_of_endsNamed hBase hName]
        exact ⟨_, .inl rfl, rawPieces_child hBase hName⟩

------------------------------------------------------------
-- Components
------------------------------------------------------------

theorem pieceComponent_of_isName
    {name : String}
    (hName : IsName name) :
    pieceComponent name.toList = some (.name name) := by
  unfold pieceComponent
  rw [hName.not_idle, String.ofList_toList]
  have hUp : (name.toList == ['.', '.']) = false :=
    beq_eq_false_iff_ne.mpr hName.not_up
  rw [hUp]
  rfl

/- A name that is joined to a base is no leading dot. -/
theorem startsHere_join
    (base : String)
    {name : String}
    (hName : IsName name) :
    startsHere (join base name) = startsHere base := by
  have hDot : name.toList ≠ ['.'] := by
    intro hEq
    have hIdle := hName.not_idle
    rw [hEq] at hIdle
    cases hIdle
  unfold startsHere
  rw [isAbsolute_join base hName]
  rcases rawPieces_join base hName with ⟨front, hBase, hPieces⟩
  rw [hPieces]
  cases front with
  | cons piece pieces =>
      rcases hBase with hBase | hBase <;> rw [hBase] <;> rfl
  | nil =>
      rcases hBase with hBase | hBase
      · have hNe : rawPieces base ≠ [] := by
          unfold rawPieces
          split <;> exact Text.splitAt_ne_nil _ _
        exact absurd hBase hNe
      · rw [hBase]
        simp [hDot]

/- A name that is joined to a base is one component more. -/
theorem components_join
    (base : String)
    {name : String}
    (hName : IsName name) :
    components (join base name) = components base ++ [.name name] := by
  have hLast := pieceComponent_of_isName hName
  unfold components
  rw [isAbsolute_join base hName, startsHere_join base hName,
    List.append_assoc]
  rcases rawPieces_join base hName with ⟨front, hBase | hBase, hPieces⟩
  · rw [hPieces, hBase, List.filterMap_append]
    simp [hLast]
  · have hEmpty : pieceComponent [] = none := rfl
    rw [hPieces, hBase, List.filterMap_append, List.filterMap_append]
    simp [hLast, hEmpty]

/- Names that are joined to a base are its last components. -/
theorem components_foldl_join
    {names : List String}
    (hNames : ∀ name ∈ names, IsName name)
    (base : String) :
    components (names.foldl join base) =
      components base ++ names.map .name := by
  induction names generalizing base with
  | nil => simp
  | cons name names ih =>
      have hHead := hNames name List.mem_cons_self
      have hTail : ∀ other ∈ names, IsName other :=
        fun other hMem => hNames other (List.mem_cons_of_mem name hMem)
      rw [List.foldl_cons, ih hTail, components_join base hHead,
        List.append_assoc, List.singleton_append, List.map_cons]

end Path

end ReleasePipeline
