import ReleasePipeline.Pipeline.Backend
import ReleasePipeline.Proofs.Files.Tree
import ReleasePipeline.Proofs.Host.Actions

/-
  This file proves what can be read back from a repository in
  a local directory.  A file that was stored is there with its
  bytes, until a file is stored at the same place again, and
  no other file is changed.

  Key definitions include:
    * `Repository.Stores`
    * `Repository.StoresBelow`

  Main declarations:
    * `Repository.storeFile_changesOnly`
    * `Repository.storeFile_eq_ok`
    * `Repository.stores_of_uploadAll`
    * `Repository.Stores.read_back`
-/

------------------------------------------------------------
-- One File
------------------------------------------------------------

namespace ReleasePipeline

namespace Repository

/- Of the directories above a file the missing ones are added. -/
theorem makeParent_changesOnly
    (t : FileTree)
    (file : String) :
    t.ChangesOnly (makeParent t file).2 (fun _ => False) fun l =>
      ∃ q, Path.Above q file ∧
        (makeParent t file).2.locate q = .ok l := by
  unfold makeParent
  cases hParent : Path.parent? file with
  | none => exact .refl t _ _
  | some directory =>
      apply (FileTree.makeDirectories_changesOnly t directory).mono
      · exact fun _ => id
      · rintro l ⟨q, rfl | hAbove, hPlace⟩
        · exact ⟨q, .parent hParent, hPlace⟩
        · exact ⟨q, .further hParent hAbove, hPlace⟩

/-
  Whether it is stored or not, a file changes at most the
  location that its path leads to in the end, and directories
  are made only on the way there.
-/
theorem storeFile_changesOnly
    (file : String)
    (bytes : Bytes)
    (t : FileTree) :
    t.ChangesOnly (storeFile file bytes t).2
      (fun l => (storeFile file bytes t).2.locate file = .ok l)
      fun l =>
        ∃ q, Path.Above q file ∧
          (storeFile file bytes t).2.locate q = .ok l := by
  have hParent := makeParent_changesOnly t file
  unfold storeFile
  rcases hResult : makeParent t file with ⟨f | ⟨⟩, made⟩
  · rw [hResult] at hParent
    exact hParent.mono (fun _ => False.elim) fun _ => id
  · rw [hResult] at hParent
    dsimp only at hParent ⊢
    cases hWrite : made.write file bytes with
    | error e => exact hParent.mono (fun _ => False.elim) fun _ => id
    | ok written =>
        have hFile := FileTree.write_changesOnly hWrite
        have hMade :
            t.ChangesOnly made (fun l => written.locate file = .ok l)
              fun l =>
                ∃ q, Path.Above q file ∧
                  written.locate q = .ok l :=
          hParent.mono (fun _ => False.elim)
            fun l ⟨q, hAbove, hPlace⟩ =>
              ⟨q, hAbove,
                FileTree.locate_of_keepsDirectories
                  hFile.toKeepsDirectories hPlace⟩
        exact hMade.trans (hFile.mono (fun _ => id) fun _ => False.elim)

/- Files are where they were in a tree that has grown. -/
theorem read_of_grows
    {t u : FileTree}
    (hGrows : t.Grows u)
    {file : String}
    {bytes : Bytes}
    (hRead : t.read file = .ok bytes) :
    u.read file = .ok bytes := by
  rcases FileTree.read_eq_ok hRead with ⟨l, hLocate, hNode⟩
  exact FileTree.read_of_nodeAt?
    (FileTree.locate_of_keepsDirectories hGrows.keepsDirectories
      hLocate)
    (hGrows.nodes l _ hNode)

/-
  A file that was stored has its bytes, and the files that
  are apart from it have the bytes that they had.
-/
theorem storeFile_eq_ok
    {t u : FileTree}
    {file : String}
    {bytes : Bytes}
    (hStore : storeFile file bytes t = (.ok (), u)) :
    u.read file = .ok bytes ∧
      ∀ other content, Path.Apart other file →
        t.read other = .ok content → u.read other = .ok content := by
  have hGrows := (makeParent_changesOnly t file).grows
  unfold storeFile at hStore
  rcases hParent : makeParent t file with ⟨f | ⟨⟩, made⟩
  · rw [hParent] at hStore
    cases hStore
  · rw [hParent] at hStore hGrows
    dsimp only at hStore hGrows
    cases hWrite : made.write file bytes with
    | error e =>
        rw [hWrite] at hStore
        cases hStore
    | ok written =>
        rw [hWrite] at hStore
        cases hStore
        refine ⟨FileTree.read_of_write hWrite, ?_⟩
        intro other content hApart hRead
        exact FileTree.read_of_write_of_apart hWrite hApart
          (read_of_grows hGrows hRead)

------------------------------------------------------------
-- Many Files
------------------------------------------------------------

/-
  How a tree comes about from another when files are stored
  one after another below a directory.
-/
inductive Stores (root : String) :
    List UploadFile → FileTree → FileTree → Prop where
  | nil (t : FileTree) : Stores root [] t t
  | cons
      {f : UploadFile}
      {files : List UploadFile}
      {t u v : FileTree}
      (hStore : storeFile (resolve root f.path) f.bytes t = (.ok (), u))
      (hMore : Stores root files u v) :
      Stores root (f :: files) t v

variable {ρ σ : Type}

/- A repository whose calls store files below a directory. -/
def StoresBelow
    (repository : Repository ρ)
    (root : String) : Prop :=
  ∀ path bytes w v x,
    repository.put path bytes w = (.ok x, v) →
      storeFile (resolve root path) bytes w.tree = (.ok (), v.tree)

/- A file that is put into a directory is stored in its tree. -/
theorem put_atDirectory
    (root path : String)
    (bytes : Bytes)
    (w : World σ) :
    (atDirectory root).put path bytes w =
      ((storeFile (resolve root path) bytes w.tree).1,
        { w with
          tree := (storeFile (resolve root path) bytes w.tree).2 }) :=
  Action.updatePartly_apply (storeFile (resolve root path) bytes) w

theorem location_atDirectory (root : String) :
    (atDirectory root : Repository σ).location = resolve root := rfl

theorem storesBelow_atDirectory (root : String) :
    (atDirectory root : Repository σ).StoresBelow root := by
  intro path bytes w v x hPut
  rw [put_atDirectory, Prod.mk.injEq] at hPut
  rcases hPut with ⟨hResult, rfl⟩
  exact Prod.ext hResult rfl

/- A local repository is opened without the help of the host. -/
theorem forTarget_of_local
    {target : PublishTarget}
    {directory : String}
    (hLocal : localPath? target.url = some directory)
    (h : Host σ)
    (timeout : Nat) :
    forTarget h target timeout = atDirectory directory := by
  unfold forTarget
  rw [hLocal]

theorem openTarget_of_local
    {target : PublishTarget}
    {directory : String}
    (hLocal : localPath? target.url = some directory)
    (h : Host σ)
    (timeout : Nat) :
    openTarget h target timeout = pure (atDirectory directory) := by
  unfold openTarget prepare
  rw [forTarget_of_local hLocal, hLocal]
  rfl

/- A recorded call that stores a file changes the tree alike. -/
theorem StoresBelow.recorded
    {repository : Repository σ}
    {root : String}
    (hBelow : repository.StoresBelow root) :
    repository.recorded.StoresBelow root := by
  intro path bytes w v x hPut
  rcases Action.bind_eq_ok hPut with ⟨y, u, hCall, hNote⟩
  cases hNote
  unfold Action.recorded Action.beside at hCall
  dsimp only at hCall
  rcases hStore :
      repository.put path bytes
        { tree := w.tree, outside := w.outside.outside } with
    ⟨f | z, t⟩
  · rw [hStore] at hCall
    cases hCall
  · have hTree := hBelow path bytes _ _ z hStore
    rw [hStore] at hCall
    cases hCall
    exact hTree

/- An upload that succeeds has stored its files in order. -/
theorem stores_of_uploadAll
    {repository : Repository ρ}
    {root : String}
    (hBelow : repository.StoresBelow root)
    {files : List UploadFile}
    {locations : List String}
    {w v : World ρ}
    (hUpload : uploadAll repository files w = (.ok locations, v)) :
    Stores root files w.tree v.tree := by
  induction files generalizing w locations with
  | nil =>
      cases hUpload
      exact .nil _
  | cons f files ih =>
      rcases Action.bind_eq_ok hUpload with ⟨_, u, hPut, hRest⟩
      rcases Action.bind_eq_ok hRest with ⟨more, u', hMore, hPure⟩
      cases hPure
      exact .cons (hBelow _ _ _ _ _ (Action.refine_eq_ok hPut))
        (ih hMore)

/- A file stays as it is while files apart from it are stored. -/
theorem Stores.read_of_apart
    {root : String}
    {files : List UploadFile}
    {t v : FileTree}
    (hStores : Stores root files t v)
    {file : String}
    {bytes : Bytes}
    (hApart :
      ∀ f ∈ files, Path.Apart file (resolve root f.path))
    (hRead : t.read file = .ok bytes) :
    v.read file = .ok bytes := by
  induction hStores with
  | nil t => exact hRead
  | cons hStore hMore ih =>
      apply ih
      · intro f hMem
        exact hApart f (List.mem_cons_of_mem _ hMem)
      · have hFirst := hApart _ List.mem_cons_self
        exact (storeFile_eq_ok hStore).2 file bytes hFirst hRead

/-
  A file can be read back if the files that were stored after
  it are apart from it.
-/
theorem Stores.read_back
    {root : String}
    {before after : List UploadFile}
    {f : UploadFile}
    {t v : FileTree}
    (hStores : Stores root (before ++ f :: after) t v)
    (hApart :
      ∀ g ∈ after,
        Path.Apart (resolve root f.path) (resolve root g.path)) :
    v.read (resolve root f.path) = .ok f.bytes := by
  induction before generalizing t with
  | nil =>
      cases hStores with
      | cons hStore hMore =>
          exact hMore.read_of_apart hApart (storeFile_eq_ok hStore).1
  | cons g before ih =>
      cases hStores with
      | cons hStore hMore => exact ih hMore

end Repository

end ReleasePipeline
