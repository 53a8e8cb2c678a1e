import ReleasePipeline.Files.Tree
import ReleasePipeline.Proofs.Files.Path
import ReleasePipeline.Proofs.Text.Utf8

/-
  This file proves what the operations on a tree of files
  leave as it was.  Making directories changes no node that is
  there, and writing a file changes that file alone.  A path
  that leads somewhere leads to the same location as long as
  no directory is taken away, and names that are joined to it
  lead below that location.

  Key definitions include:
    * `FileTree.Grows`
    * `FileTree.KeepsDirectories`
    * `FileTree.ChangesOnly`
    * `FileTree.walk`
    * `FileTree.Alike`
    * `Path.Apart`

  Main declarations:
    * `FileTree.makeDirectories_changesOnly`
    * `FileTree.locate_of_keepsDirectories`
    * `FileTree.walk_foldl_join`
    * `FileTree.write_eq_ok`
    * `FileTree.read_of_write`, `FileTree.node_of_write`
    * `Path.apart_join`
-/

------------------------------------------------------------
-- Nodes
------------------------------------------------------------

namespace ReleasePipeline

namespace FileTree

theorem lookup_filter_of_ne
    {l m : Location}
    (hNe : m ≠ l)
    (es : List (Location × Node)) :
    (es.filter (·.1 != l)).lookup m = es.lookup m := by
  induction es with
  | nil => rfl
  | cons e es ih =>
      by_cases hSame : e.1 = l
      · have hOther : (m == e.1) = false := by
          rw [hSame]
          exact beq_eq_false_iff_ne.mpr hNe
        rw [List.filter_cons_of_neg (by simp [hSame]), ih,
          List.lookup_cons, hOther]
      · rw [List.filter_cons_of_pos (by simp [hSame]),
          List.lookup_cons, List.lookup_cons, ih]

theorem lookup_filter_self
    (l : Location)
    (es : List (Location × Node)) :
    (es.filter (·.1 != l)).lookup l = none := by
  induction es with
  | nil => rfl
  | cons e es ih =>
      by_cases hSame : e.1 = l
      · rw [List.filter_cons_of_neg (by simp [hSame]), ih]
      · have hOther : (l == e.1) = false :=
          beq_eq_false_iff_ne.mpr fun hEq => hSame hEq.symm
        rw [List.filter_cons_of_pos (by simp [hSame]),
          List.lookup_cons, hOther, ih]

variable {t u v : FileTree}

@[simp] theorem nodeAt?_root (t : FileTree) :
    t.nodeAt? [] = some .directory := rfl

/- The root is a directory. -/
theorem ne_root_of_nodeAt?
    {l : Location}
    (hNode : t.nodeAt? l ≠ some .directory) :
    l ≠ [] := by
  intro hEq
  rw [hEq] at hNode
  exact hNode (nodeAt?_root t)

/- The node that was put at a location is there. -/
theorem nodeAt?_setNode_self
    {l : Location}
    (hRoot : l ≠ [])
    (n : Node) :
    (t.setNode l n).nodeAt? l = some n := by
  unfold nodeAt? setNode
  rw [if_neg hRoot, List.lookup_append, lookup_filter_self]
  simp

/- Any other location has the node that it had. -/
theorem nodeAt?_setNode_of_ne
    {l m : Location}
    (hNe : m ≠ l)
    (n : Node) :
    (t.setNode l n).nodeAt? m = t.nodeAt? m := by
  unfold nodeAt? setNode
  by_cases hRoot : m = []
  · rw [if_pos hRoot, if_pos hRoot]
  · have hOther : (m == l) = false := beq_eq_false_iff_ne.mpr hNe
    rw [if_neg hRoot, if_neg hRoot, List.lookup_append,
      lookup_filter_of_ne hNe, List.lookup_cons, hOther]
    simp

------------------------------------------------------------
-- Growth
------------------------------------------------------------

/- A tree that has every node of another. -/
structure Grows (t u : FileTree) : Prop where
  origin : u.workingDirectory = t.workingDirectory
  nodes : ∀ l n, t.nodeAt? l = some n → u.nodeAt? l = some n

/- A tree that has every directory of another. -/
structure KeepsDirectories (t u : FileTree) : Prop where
  origin : u.workingDirectory = t.workingDirectory
  directories :
    ∀ l, t.nodeAt? l = some .directory → u.nodeAt? l = some .directory

theorem Grows.refl (t : FileTree) : t.Grows t :=
  ⟨rfl, fun _ _ hNode => hNode⟩

theorem Grows.keepsDirectories (hGrows : t.Grows u) :
    t.KeepsDirectories u :=
  ⟨hGrows.origin, fun l hNode => hGrows.nodes l .directory hNode⟩

theorem KeepsDirectories.refl (t : FileTree) : t.KeepsDirectories t :=
  (Grows.refl t).keepsDirectories

theorem KeepsDirectories.trans
    (hFirst : t.KeepsDirectories u)
    (hSecond : u.KeepsDirectories v) :
    t.KeepsDirectories v :=
  ⟨hSecond.origin.trans hFirst.origin,
    fun l hNode => hSecond.directories l (hFirst.directories l hNode)⟩

------------------------------------------------------------
-- Following a Path
------------------------------------------------------------

/- A step is taken from a directory, which is all it asks for. -/
theorem step_of_keepsDirectories
    (hKeeps : t.KeepsDirectories u)
    {l m : Location}
    {piece : List Char}
    (hStep : t.step l piece = .ok m) :
    u.step l piece = .ok m := by
  unfold step at hStep ⊢
  cases hNode : t.nodeAt? l with
  | none =>
      rw [hNode] at hStep
      cases hStep
  | some n =>
      cases n with
      | file bytes =>
          rw [hNode] at hStep
          cases hStep
      | directory =>
          rw [hNode] at hStep
          rw [hKeeps.directories l hNode]
          exact hStep

theorem follow_of_keepsDirectories
    (hKeeps : t.KeepsDirectories u)
    {pieces : List (List Char)}
    {l m : Location}
    (hFollow : t.follow l pieces = .ok m) :
    u.follow l pieces = .ok m := by
  induction pieces generalizing l with
  | nil => exact hFollow
  | cons piece pieces ih =>
      unfold follow at hFollow ⊢
      cases hStep : t.step l piece with
      | error e =>
          rw [hStep] at hFollow
          cases hFollow
      | ok next =>
          rw [hStep] at hFollow
          rw [step_of_keepsDirectories hKeeps hStep]
          exact ih hFollow

/- A path leads where it led before. -/
theorem locate_of_keepsDirectories
    (hKeeps : t.KeepsDirectories u)
    {p : String}
    {l : Location}
    (hLocate : t.locate p = .ok l) :
    u.locate p = .ok l := by
  have hOrigin : u.origin p = t.origin p := by
    unfold origin
    rw [hKeeps.origin]
  unfold locate at hLocate ⊢
  cases hCheck : checkPath p with
  | error e =>
      rw [hCheck] at hLocate
      cases hLocate
  | ok x =>
      rw [hCheck] at hLocate
      rw [hOrigin]
      exact follow_of_keepsDirectories hKeeps hLocate

/- The pieces of a path are followed one after another. -/
theorem follow_append
    {pieces more : List (List Char)}
    {l m : Location}
    (hFollow : t.follow l (pieces ++ more) = .ok m) :
    ∃ k, t.follow l pieces = .ok k ∧ t.follow k more = .ok m := by
  induction pieces generalizing l with
  | nil => exact ⟨l, rfl, hFollow⟩
  | cons piece pieces ih =>
      rw [List.cons_append] at hFollow
      unfold follow at hFollow
      cases hStep : t.step l piece with
      | error e =>
          rw [hStep] at hFollow
          cases hFollow
      | ok next =>
          rw [hStep] at hFollow
          rcases ih hFollow with ⟨k, hFirst, hSecond⟩
          refine ⟨k, ?_, hSecond⟩
          unfold follow
          rw [hStep]
          exact hFirst

theorem follow_append_of_ok
    {pieces more : List (List Char)}
    {l k : Location}
    (hFollow : t.follow l pieces = .ok k) :
    t.follow l (pieces ++ more) = t.follow k more := by
  induction pieces generalizing l with
  | nil =>
      cases hFollow
      rfl
  | cons piece pieces ih =>
      rw [List.cons_append]
      unfold follow at hFollow
      rw [follow]
      cases hStep : t.step l piece with
      | error e =>
          rw [hStep] at hFollow
          cases hFollow
      | ok next =>
          rw [hStep] at hFollow
          exact ih hFollow

/- Empty pieces at the end of a path stay in a directory. -/
theorem follow_of_follow_stripped
    {pieces : List (List Char)}
    {l m : Location}
    (hNode : t.nodeAt? m = some .directory)
    (hFollow :
      t.follow l (pieces.reverse.dropWhile (· == [])).reverse =
        .ok m) :
    t.follow l pieces = .ok m := by
  have hEmpty :
      ∀ piece ∈ pieces.reverse.takeWhile (· == []), piece = [] := by
    intro piece hMem
    have hAll :=
      List.all_takeWhile (p := (· == [])) (l := pieces.reverse)
    exact eq_of_beq (List.all_eq_true.mp hAll piece hMem)
  have hParts :=
    List.takeWhile_append_dropWhile (p := (· == [])) (l := pieces.reverse)
  have hPieces := congrArg List.reverse hParts
  rw [List.reverse_append, List.reverse_reverse] at hPieces
  rw [← hPieces, follow_append_of_ok hFollow]
  have hStay :
      ∀ more : List (List Char), (∀ piece ∈ more, piece = []) →
        t.follow m more = .ok m := by
    intro more hMore
    induction more with
    | nil => rfl
    | cons piece more ih =>
        have hTail : ∀ other ∈ more, other = [] :=
          fun other hMem => hMore other (List.mem_cons_of_mem piece hMem)
        rw [hMore piece List.mem_cons_self]
        unfold follow step
        rw [hNode]
        exact ih hTail
  apply hStay
  intro piece hMem
  exact hEmpty piece (List.mem_reverse.mp hMem)

/- A name leads directly below a directory. -/
theorem step_isName
    {name : String}
    (hName : Path.IsName name)
    {l m : Location}
    (hStep : t.step l name.toList = .ok m) :
    t.nodeAt? l = some .directory ∧ m = l ++ [name] := by
  unfold step at hStep
  split at hStep
  · cases hStep
  · cases hStep
  · next hNode =>
      refine ⟨hNode, ?_⟩
      rw [hName.not_idle, if_neg hName.not_up] at hStep
      split at hStep
      · contradiction
      · split at hStep
        · cases hStep
        · cases hStep
          rw [String.ofList_toList]

------------------------------------------------------------
-- Names Below a Path
------------------------------------------------------------

/- Where the pieces of a path lead, however long the path is. -/
def walk
    (t : FileTree)
    (p : String) : Except IoError Location :=
  t.follow (t.origin p) (Path.rawPieces p)

theorem walk_of_locate
    {p : String}
    {l : Location}
    (hLocate : t.locate p = .ok l) :
    t.walk p = .ok l := by
  unfold locate at hLocate
  split at hLocate
  · cases hLocate
  · exact hLocate

/- A name that is joined to a path leads directly below it. -/
theorem walk_join
    {base name : String}
    (hName : Path.IsName name)
    {l : Location}
    (hWalk : t.walk (Path.join base name) = .ok l) :
    ∃ k, t.walk base = .ok k ∧ l = k ++ [name] := by
  have hOrigin : t.origin (Path.join base name) = t.origin base := by
    unfold origin
    rw [Path.isAbsolute_join base hName]
  unfold walk at hWalk ⊢
  rcases Path.rawPieces_join base hName with ⟨front, hBase, hPieces⟩
  rw [hOrigin, hPieces] at hWalk
  rcases follow_append hWalk with ⟨k, hFront, hLast⟩
  have hStep : t.step k name.toList = .ok l := by
    unfold follow at hLast
    cases hStep : t.step k name.toList with
    | error e =>
        rw [hStep] at hLast
        cases hLast
    | ok next =>
        rw [hStep] at hLast
        exact hLast
  rcases step_isName hName hStep with ⟨hDirectory, hEnd⟩
  refine ⟨k, ?_, hEnd⟩
  rcases hBase with hBase | hBase
  · rw [hBase, hFront]
  · have hStay : t.follow k [[]] = .ok k := by
      unfold follow step
      rw [hDirectory]
      rfl
    rw [hBase, follow_append_of_ok hFront, hStay]

/- Names that are joined to a path lead below it in order. -/
theorem walk_foldl_join
    {names : List String}
    (hNames : ∀ name ∈ names, Path.IsName name)
    {base : String}
    {l : Location}
    (hWalk : t.walk (names.foldl Path.join base) = .ok l) :
    ∃ k, t.walk base = .ok k ∧ l = k ++ names := by
  induction names generalizing base with
  | nil => exact ⟨l, hWalk, (List.append_nil l).symm⟩
  | cons name names ih =>
      have hTail : ∀ other ∈ names, Path.IsName other :=
        fun other hMem => hNames other (List.mem_cons_of_mem name hMem)
      rcases ih hTail hWalk with ⟨m, hFirst, rfl⟩
      have hHead := hNames name List.mem_cons_self
      rcases walk_join hHead hFirst with ⟨k, hBase, rfl⟩
      refine ⟨k, hBase, ?_⟩
      rw [List.append_assoc, List.singleton_append]

------------------------------------------------------------
-- Changes
------------------------------------------------------------

/-
  A tree that differs from another only in some files and in
  some directories that were made where there was nothing.
  Every directory is still there.
-/
structure ChangesOnly
    (t u : FileTree)
    (touched made : Location → Prop) : Prop extends
    KeepsDirectories t u where
  elsewhere :
    ∀ l, ¬ touched l →
      u.nodeAt? l = t.nodeAt? l ∨
        made l ∧ t.nodeAt? l = none ∧
          u.nodeAt? l = some .directory

variable {touched made : Location → Prop}

theorem ChangesOnly.refl
    (t : FileTree)
    (touched made : Location → Prop) :
    t.ChangesOnly t touched made :=
  ⟨.refl t, fun _ _ => .inl rfl⟩

theorem ChangesOnly.trans
    (hFirst : t.ChangesOnly u touched made)
    (hSecond : u.ChangesOnly v touched made) :
    t.ChangesOnly v touched made := by
  refine
    ⟨hFirst.toKeepsDirectories.trans hSecond.toKeepsDirectories, ?_⟩
  intro l hOther
  rcases hFirst.elsewhere l hOther with
    hSame | ⟨hPlace, hNone, hMade⟩
  · rw [← hSame]
    exact hSecond.elsewhere l hOther
  · exact .inr ⟨hPlace, hNone, hSecond.directories l hMade⟩

theorem ChangesOnly.mono
    {touched' made' : Location → Prop}
    (hChanges : t.ChangesOnly u touched made)
    (hTouched : ∀ l, touched l → touched' l)
    (hMade : ∀ l, made l → made' l) :
    t.ChangesOnly u touched' made' := by
  refine ⟨hChanges.toKeepsDirectories, ?_⟩
  intro l hOther
  have hSame :=
    hChanges.elsewhere l fun hPlace => hOther (hTouched l hPlace)
  exact hSame.imp_right fun ⟨hPlace, hNew⟩ => ⟨hMade l hPlace, hNew⟩

/- Anywhere else there are the files that there were. -/
theorem ChangesOnly.file_iff
    (hChanges : t.ChangesOnly u touched made)
    {l : Location}
    (hOther : ¬ touched l)
    (bytes : Bytes) :
    u.nodeAt? l = some (.file bytes) ↔
      t.nodeAt? l = some (.file bytes) := by
  rcases hChanges.elsewhere l hOther with hSame | ⟨-, hNone, hMade⟩
  · rw [hSame]
  · rw [hNone, hMade]
    simp

/- Where no file is touched, nodes are only added. -/
theorem ChangesOnly.grows
    (hChanges : t.ChangesOnly u (fun _ => False) made) :
    t.Grows u := by
  refine ⟨hChanges.origin, ?_⟩
  intro l n hNode
  rcases hChanges.elsewhere l not_false with hSame | ⟨-, hNone, -⟩
  · rw [hSame, hNode]
  · rw [hNode] at hNone
    cases hNone

/- A node in the place of another that is no directory. -/
theorem setNode_changesOnly
    {l : Location}
    (hNode : t.nodeAt? l ≠ some .directory)
    (n : Node) :
    t.ChangesOnly (t.setNode l n) (· = l) (fun _ => False) := by
  refine ⟨⟨rfl, ?_⟩, ?_⟩
  · intro m hDirectory
    have hNe : m ≠ l := by
      intro hEq
      rw [hEq] at hDirectory
      exact hNode hDirectory
    rw [nodeAt?_setNode_of_ne hNe, hDirectory]
  · intro m hNe
    exact .inl (nodeAt?_setNode_of_ne hNe n)

/-
  A directory is made only where nothing was, and its path
  leads there, whatever slashes it ends in.
-/
theorem makeDirectory_changesOnly
    {p : String}
    (hMade : t.makeDirectory p = .ok u) :
    t.ChangesOnly u (fun _ => False) fun l => u.locate p = .ok l := by
  unfold makeDirectory at hMade
  split at hMade
  · cases hMade
  · next hCheck =>
    dsimp only at hMade
    split at hMade
    · cases hMade
    · next l hFollow =>
        cases hNode : t.nodeAt? l with
        | some n =>
            rw [hNode] at hMade
            cases hMade
        | none =>
            rw [hNode] at hMade
            cases hMade
            have hOpen : t.nodeAt? l ≠ some .directory := by
              rw [hNode]
              exact nofun
            have hRoot := ne_root_of_nodeAt? hOpen
            have hThere := nodeAt?_setNode_self (t := t) hRoot .directory
            have hChanges := setNode_changesOnly hOpen .directory
            have hLocate : (t.setNode l .directory).locate p = .ok l := by
              unfold locate
              rw [hCheck]
              exact follow_of_follow_stripped hThere
                (follow_of_keepsDirectories hChanges.toKeepsDirectories
                  hFollow)
            refine ⟨hChanges.toKeepsDirectories, ?_⟩
            intro m _
            by_cases hPlace : m = l
            · subst hPlace
              exact .inr ⟨hLocate, hNode, hThere⟩
            · exact .inl (nodeAt?_setNode_of_ne hPlace _)

/-
  Whatever comes of it, making the directories of a lineage
  only adds some of them.
-/
theorem makeLineage_changesOnly
    (ps : List String)
    (t : FileTree) :
    t.ChangesOnly (makeLineage ps t).2 (fun _ => False) fun l =>
      ∃ p ∈ ps, (makeLineage ps t).2.locate p = .ok l := by
  induction ps generalizing t with
  | nil => exact .refl t _ _
  | cons p above ih =>
      have hFirst
          {u v : FileTree}
          (hMade : u.makeDirectory p = .ok v) :
          u.ChangesOnly v (fun _ => False) fun l =>
            ∃ q ∈ p :: above, v.locate q = .ok l :=
        (makeDirectory_changesOnly hMade).mono (fun _ => id)
          fun l hPlace => ⟨p, List.mem_cons_self, hPlace⟩
      have hLater
          {u v : FileTree}
          (hAbove :
            t.ChangesOnly u (fun _ => False) fun l =>
              ∃ q ∈ above, u.locate q = .ok l)
          (hKeeps : u.KeepsDirectories v) :
          t.ChangesOnly u (fun _ => False) fun l =>
            ∃ q ∈ p :: above, v.locate q = .ok l :=
        hAbove.mono (fun _ => id) fun l ⟨q, hMem, hPlace⟩ =>
          ⟨q, List.mem_cons_of_mem p hMem,
            locate_of_keepsDirectories hKeeps hPlace⟩
      -- The path itself is tried before and behind those above it.
      unfold makeLineage
      split
      · exact .refl t _ _
      · split
        · next made hMade => exact hFirst hMade
        · split
          · have hAbove := ih t
            split
            · next u hResult =>
                rw [hResult] at hAbove
                exact hLater hAbove (.refl u)
            · next u hResult =>
                rw [hResult] at hAbove
                split
                · next made hMade =>
                    have hMore := hFirst hMade
                    exact (hLater hAbove hMore.toKeepsDirectories).trans
                      hMore
                · split <;> exact hLater hAbove (.refl u)
          · split <;> exact .refl t _ _

/- A lineage is a path and what is above it. -/
theorem above_of_mem_lineage
    {fuel : Nat}
    {p q : String}
    (hMem : q ∈ lineage fuel p) :
    q = p ∨ Path.Above q p := by
  induction fuel generalizing p with
  | zero => exact .inl (List.mem_singleton.mp hMem)
  | succ fuel ih =>
      unfold lineage at hMem
      cases hParent : Path.parent? p with
      | none =>
          rw [hParent] at hMem
          exact .inl (List.mem_singleton.mp hMem)
      | some above =>
          rw [hParent] at hMem
          rcases List.mem_cons.mp hMem with hSame | hMore
          · exact .inl hSame
          · rcases ih hMore with rfl | hAbove
            · exact .inr (.parent hParent)
            · exact .inr (.further hParent hAbove)

/- Directories are made on the way to a path, and no other. -/
theorem makeDirectories_changesOnly
    (t : FileTree)
    (p : String) :
    t.ChangesOnly (t.makeDirectories p).2 (fun _ => False) fun l =>
      ∃ q, (q = p ∨ Path.Above q p) ∧
        (t.makeDirectories p).2.locate q = .ok l :=
  (makeLineage_changesOnly _ t).mono (fun _ => id)
    fun _ ⟨q, hMem, hPlace⟩ => ⟨q, above_of_mem_lineage hMem, hPlace⟩

------------------------------------------------------------
-- Reading and Writing
------------------------------------------------------------

/- A file is read at the location that its path leads to. -/
theorem read_of_nodeAt?
    {p : String}
    {l : Location}
    {bytes : Bytes}
    (hLocate : t.locate p = .ok l)
    (hNode : t.nodeAt? l = some (.file bytes)) :
    t.read p = .ok bytes := by
  unfold read node
  rw [hLocate]
  dsimp only
  rw [hNode]

theorem read_eq_ok
    {p : String}
    {bytes : Bytes}
    (hRead : t.read p = .ok bytes) :
    ∃ l, t.locate p = .ok l ∧ t.nodeAt? l = some (.file bytes) := by
  unfold read node at hRead
  cases hLocate : t.locate p with
  | error e =>
      rw [hLocate] at hRead
      cases hRead
  | ok l =>
      rw [hLocate] at hRead
      dsimp only at hRead
      refine ⟨l, rfl, ?_⟩
      cases hNode : t.nodeAt? l with
      | none =>
          rw [hNode] at hRead
          cases hRead
      | some n =>
          rw [hNode] at hRead
          cases n with
          | directory => cases hRead
          | file found =>
              cases hRead
              rfl

/- A text is read as it was encoded. -/
theorem readText_of_read
    {p text : String}
    (hRead : t.read p = .ok (Utf8.encode text)) :
    t.readText p = .ok text := by
  unfold readText
  rw [hRead]
  dsimp only
  rw [Utf8.decode_encode]

/- What can be read as text is there. -/
theorem present_of_readText
    {p text : String}
    (hText : t.readText p = .ok text) :
    t.present p = true := by
  unfold readText read at hText
  unfold present
  cases hNode : t.node p with
  | error e =>
      rw [hNode] at hText
      cases hText
  | ok n => rfl

/- A write puts a file where no directory is. -/
theorem write_eq_ok
    {p : String}
    {bytes : Bytes}
    (hWrite : t.write p bytes = .ok u) :
    ∃ l, t.locate p = .ok l ∧ t.nodeAt? l ≠ some .directory ∧
      u = t.setNode l (.file bytes) := by
  unfold write at hWrite
  split at hWrite
  · split at hWrite
    · cases hWrite
    · split at hWrite <;> cases hWrite
  · cases hLocate : t.locate p with
    | error e =>
        rw [hLocate] at hWrite
        cases hWrite
    | ok l =>
        rw [hLocate] at hWrite
        dsimp only at hWrite
        split at hWrite
        · cases hWrite
        · next hNode =>
            cases hWrite
            exact ⟨l, rfl, hNode, rfl⟩

/- A file replaces a file or nothing, and nothing else changes. -/
theorem write_changesOnly
    {p : String}
    {bytes : Bytes}
    (hWrite : t.write p bytes = .ok u) :
    t.ChangesOnly u (fun l => u.locate p = .ok l)
      (fun _ => False) := by
  rcases write_eq_ok hWrite with ⟨l, hLocate, hNode, rfl⟩
  have hChanges := setNode_changesOnly hNode (.file bytes)
  refine hChanges.mono ?_ fun _ => id
  rintro m rfl
  exact locate_of_keepsDirectories hChanges.toKeepsDirectories hLocate

theorem write_keepsDirectories
    {p : String}
    {bytes : Bytes}
    (hWrite : t.write p bytes = .ok u) :
    t.KeepsDirectories u :=
  (write_changesOnly hWrite).toKeepsDirectories

/- What was written is read. -/
theorem read_of_write
    {p : String}
    {bytes : Bytes}
    (hWrite : t.write p bytes = .ok u) :
    u.read p = .ok bytes := by
  have hKeeps := write_keepsDirectories hWrite
  rcases write_eq_ok hWrite with ⟨l, hLocate, hNode, rfl⟩
  have hRoot := ne_root_of_nodeAt? hNode
  exact read_of_nodeAt? (locate_of_keepsDirectories hKeeps hLocate)
    (nodeAt?_setNode_self hRoot _)

------------------------------------------------------------
-- Other Paths
------------------------------------------------------------

/- Two results are the same, or neither is a success. -/
def Alike
    {α : Type}
    (r r' : Except IoError α) : Prop :=
  r = r' ∨ (∃ e, r = .error e) ∧ ∃ e, r' = .error e

end FileTree

------------------------------------------------------------
-- Paths That Are Apart
------------------------------------------------------------

namespace Path

/- Paths that do not lead to the same location in any tree. -/
def Apart (p q : String) : Prop :=
  ∀ (t : FileTree) (l m : Location),
    t.locate p = .ok l → t.locate q = .ok m → l ≠ m

/- Two names in one directory are two locations. -/
theorem apart_join
    (base : String)
    {name other : String}
    (hName : IsName name)
    (hOther : IsName other)
    (hNe : name ≠ other) :
    Apart (join base name) (join base other) := by
  intro t l m hLocate hLocate'
  rcases FileTree.walk_join hName (FileTree.walk_of_locate hLocate) with
    ⟨k, -, rfl⟩
  rcases
    FileTree.walk_join hOther (FileTree.walk_of_locate hLocate') with
    ⟨k', -, rfl⟩
  intro hEq
  have hLast := (List.append_inj' hEq rfl).2
  simp only [List.cons.injEq, and_true] at hLast
  exact hNe hLast

end Path

/- A write leaves alone what is apart. -/
theorem FileTree.read_of_write_of_apart
    {t u : FileTree}
    {p q : String}
    {bytes content : Bytes}
    (hWrite : t.write p bytes = .ok u)
    (hApart : Path.Apart q p)
    (hRead : t.read q = .ok content) :
    u.read q = .ok content := by
  have hKeeps := write_keepsDirectories hWrite
  rcases write_eq_ok hWrite with ⟨l, hLocate, -, rfl⟩
  rcases read_eq_ok hRead with ⟨m, hOther, hFile⟩
  have hNe : m ≠ l := hApart t m l hOther hLocate
  apply read_of_nodeAt? (locate_of_keepsDirectories hKeeps hOther)
  rw [nodeAt?_setNode_of_ne hNe, hFile]

end ReleasePipeline
