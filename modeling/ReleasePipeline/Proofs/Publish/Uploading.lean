import ReleasePipeline.Proofs.Host.Frame
import ReleasePipeline.Proofs.Publish.Storing

/-
  This file proves how an upload ends.  The files are put in
  their order; either the repository takes all of them, or
  the first one that it does not take is the last one that is
  put, and the failure names it.  What the tree of files is
  then like depends on where the repository is.

  Key definitions include:
    * `Repository.Puts`
    * `Repository.Uploads`
    * `Repository.ActsBelow`, `Repository.ActsAt`

  Main declarations:
    * `Repository.uploadAll_cons_of_ok`
    * `Repository.uploadAll_cons_of_error`
    * `Repository.uploads_uploadAll`
    * `Repository.Uploads.changesOnly`
    * `Repository.Uploads.read_back`
    * `Repository.actsAt_forTarget`, `Repository.leavesTree_openTarget`
-/

------------------------------------------------------------
-- Puts
------------------------------------------------------------

namespace ReleasePipeline

namespace Repository

variable {ρ : Type} {repository : Repository ρ}

/-
  How a world comes about from another when a repository takes
  files one after another.
-/
inductive Puts (repository : Repository ρ) :
    List UploadFile → World ρ → World ρ → Prop where
  | nil (w : World ρ) : Puts repository [] w w
  | cons
      {f : UploadFile}
      {files : List UploadFile}
      {w u v : World ρ}
      (hPut : repository.put f.path f.bytes w = (.ok (), u))
      (hMore : Puts repository files u v) :
      Puts repository (f :: files) w v

/-
  How an upload of files ends: with the first of them taken, a
  result, and a world.  Nothing is put after a file that was
  not taken, and the failure names that file.
-/
inductive Uploads (repository : Repository ρ) :
    List UploadFile → List UploadFile → World ρ →
      Except Fault (List String) → World ρ → Prop where
  | finished
      {files : List UploadFile}
      {w v : World ρ}
      (hPuts : repository.Puts files w v) :
      Uploads repository files files w
        (.ok (files.map fun f => repository.location f.path)) v
  | stopped
      {done rest : List UploadFile}
      {f : UploadFile}
      {cause : Fault}
      {w u v : World ρ}
      (hPuts : repository.Puts done w u)
      (hPut : repository.put f.path f.bytes u = (.error cause, v)) :
      Uploads repository (done ++ f :: rest) done w
        (.error (uploadFault f (repository.location f.path) cause)) v

/- Another file in front that is taken first. -/
theorem Uploads.cons
    {f : UploadFile}
    {files done : List UploadFile}
    {w u v : World ρ}
    {result : Except Fault (List String)}
    (hPut : repository.put f.path f.bytes w = (.ok (), u))
    (hMore : repository.Uploads files done u result v) :
    repository.Uploads (f :: files) (f :: done) w
      (result.map (repository.location f.path :: ·)) v := by
  cases hMore with
  | finished hPuts => exact .finished (.cons hPut hPuts)
  | stopped hPuts hFailed =>
      exact .stopped (.cons hPut hPuts) hFailed

/- A file that is taken is followed by the upload of the others. -/
theorem uploadAll_cons_of_ok
    {f : UploadFile}
    {files : List UploadFile}
    {w u v : World ρ}
    {result : Except Fault (List String)}
    (hPut : repository.put f.path f.bytes w = (.ok (), u))
    (hMore : uploadAll repository files u = (result, v)) :
    uploadAll repository (f :: files) w =
      (result.map (repository.location f.path :: ·), v) := by
  unfold uploadAll
  dsimp only
  rw [Action.bind_apply, Action.refine_apply, hPut]
  dsimp only [Except.mapError]
  rw [Action.bind_apply, hMore]
  cases result with
  | error e => rfl
  | ok locations => rfl

/- A file that is not taken ends the upload. -/
theorem uploadAll_cons_of_error
    {f : UploadFile}
    {files : List UploadFile}
    {w v : World ρ}
    {cause : Fault}
    (hPut : repository.put f.path f.bytes w = (.error cause, v)) :
    uploadAll repository (f :: files) w =
      (.error (uploadFault f (repository.location f.path) cause),
        v) := by
  unfold uploadAll
  dsimp only
  rw [Action.bind_apply, Action.refine_apply, hPut]
  rfl

/- Every upload ends in one of these ways. -/
theorem uploads_uploadAll
    (repository : Repository ρ)
    (files : List UploadFile)
    (w : World ρ) :
    ∃ done,
      repository.Uploads files done w
        (uploadAll repository files w).1
        (uploadAll repository files w).2 := by
  induction files generalizing w with
  | nil => exact ⟨[], .finished (.nil w)⟩
  | cons f files ih =>
      rcases hPut : repository.put f.path f.bytes w with
        ⟨cause | ⟨⟩, u⟩
      · rw [uploadAll_cons_of_error hPut]
        exact ⟨[], .stopped (.nil w) hPut⟩
      · rcases ih u with ⟨done, hMore⟩
        rw [uploadAll_cons_of_ok hPut rfl]
        exact ⟨f :: done, hMore.cons hPut⟩

/- The files that were taken are the first ones. -/
theorem Uploads.prefix
    {files done : List UploadFile}
    {w v : World ρ}
    {result : Except Fault (List String)}
    (hUploads : repository.Uploads files done w result v) :
    done <+: files := by
  cases hUploads with
  | finished hPuts => exact List.prefix_rfl
  | stopped hPuts hPut => exact List.prefix_append _ _

/- An upload that fails has stopped at a file, which it names. -/
theorem Uploads.of_error
    {files done : List UploadFile}
    {w v : World ρ}
    {e : Fault}
    (hUploads : repository.Uploads files done w (.error e) v) :
    ∃ f rest cause u,
      files = done ++ f :: rest ∧
      repository.Puts done w u ∧
      repository.put f.path f.bytes u = (.error cause, v) ∧
      e = uploadFault f (repository.location f.path) cause := by
  cases hUploads with
  | stopped hPuts hPut => exact ⟨_, _, _, _, rfl, hPuts, hPut, rfl⟩

------------------------------------------------------------
-- Where a Repository Acts
------------------------------------------------------------

/-
  A repository in a directory: what it does to the tree is to
  store a file there, or to try.
-/
structure ActsBelow
    (repository : Repository ρ)
    (root : String) : Prop where
  stores : repository.StoresBelow root
  fails :
    ∀ path bytes w v f,
      repository.put path bytes w = (.error f, v) →
        ∃ cause,
          storeFile (resolve root path) bytes w.tree =
            (.error cause, v.tree)

/- A repository that acts in a directory or not on the tree. -/
def ActsAt (repository : Repository ρ) : Option String → Prop
  | some root => repository.ActsBelow root
  | none =>
      ∀ path bytes w, (repository.put path bytes w).2.tree = w.tree

theorem actsBelow_atDirectory (root : String) :
    (atDirectory root : Repository ρ).ActsBelow root := by
  refine ⟨storesBelow_atDirectory root, ?_⟩
  intro path bytes w v f hPut
  rw [put_atDirectory, Prod.mk.injEq] at hPut
  rcases hPut with ⟨hResult, rfl⟩
  exact ⟨f, Prod.ext hResult rfl⟩

/- On a host that does not change the tree, no request does. -/
theorem leavesTree_send
    {h : Host ρ}
    (hHost : h.LeavesTree)
    (request : WebRequest) :
    (send h request).LeavesTree fun _ => True := by
  intro w
  have hTree := hHost.request request w
  unfold send
  rcases hSent : h.request request w with ⟨reason | response, v⟩
  all_goals
    rw [hSent] at hTree
    exact ⟨hTree, fun _ _ => trivial⟩

/- The repository of a target acts where its address points. -/
theorem actsAt_forTarget
    {h : Host ρ}
    (hHost : h.LeavesTree)
    (target : PublishTarget)
    (timeout : Nat) :
    (forTarget h target timeout).ActsAt (localPath? target.url) := by
  unfold forTarget
  cases localPath? target.url with
  | some root => exact actsBelow_atDirectory root
  | none =>
      intro path bytes w
      have hPut :
          ((atAddress h target timeout).put path bytes).LeavesTree
            fun _ => True := by
        apply (leavesTree_send hHost _).bind
        intro response _
        split
        · exact Action.leavesTree_pure trivial
        · exact Action.leavesTree_throw _ _
      exact (hPut w).1

/- To open it does not change the world. -/
theorem idle_prepare
    (h : Host ρ)
    (target : PublishTarget) :
    (prepare h target).Idle := by
  unfold prepare
  split
  · exact fun _ => rfl
  · exact Action.idle_ask _ _

theorem leavesTree_openTarget
    {h : Host ρ}
    (hHost : h.LeavesTree)
    (target : PublishTarget)
    (timeout : Nat) :
    (openTarget h target timeout).LeavesTree
      (·.ActsAt (localPath? target.url)) := by
  apply (idle_prepare h target).leavesTree.bind
  intro _ _
  exact Action.leavesTree_pure (actsAt_forTarget hHost target timeout)

------------------------------------------------------------
-- Remote Uploads
------------------------------------------------------------

theorem Puts.leavesTree
    (hActs : repository.ActsAt none)
    {files : List UploadFile}
    {w v : World ρ}
    (hPuts : repository.Puts files w v) :
    v.tree = w.tree := by
  induction hPuts with
  | nil w => rfl
  | @cons f files w u v hPut hMore ih =>
      have hTree := hActs f.path f.bytes w
      rw [hPut] at hTree
      exact ih.trans hTree

/- An upload to a remote repository leaves the tree as it is. -/
theorem Uploads.leavesTree
    (hActs : repository.ActsAt none)
    {files done : List UploadFile}
    {w v : World ρ}
    {result : Except Fault (List String)}
    (hUploads : repository.Uploads files done w result v) :
    v.tree = w.tree := by
  cases hUploads with
  | finished hPuts => exact hPuts.leavesTree hActs
  | @stopped _ _ f _ _ u _ hPuts hPut =>
      have hTree := hActs f.path f.bytes u
      rw [hPut] at hTree
      exact hTree.trans (hPuts.leavesTree hActs)

------------------------------------------------------------
-- Local Uploads
------------------------------------------------------------

variable {root : String}

/- Files that are put into a directory are stored in its tree. -/
theorem Puts.stores
    (hActs : repository.ActsBelow root)
    {files : List UploadFile}
    {w v : World ρ}
    (hPuts : repository.Puts files w v) :
    Stores root files w.tree v.tree := by
  induction hPuts with
  | nil w => exact .nil w.tree
  | cons hPut hMore ih => exact .cons (hActs.stores _ _ _ _ _ hPut) ih

/- The locations of files below a directory. -/
def LocatesAny
    (root : String)
    (files : List UploadFile)
    (t : FileTree)
    (l : Location) : Prop :=
  ∃ f ∈ files, t.locate (resolve root f.path) = .ok l

/- The locations on the way to files below a directory. -/
def LeadsToAny
    (root : String)
    (files : List UploadFile)
    (t : FileTree)
    (l : Location) : Prop :=
  ∃ f ∈ files, ∃ q,
    Path.Above q (resolve root f.path) ∧ t.locate q = .ok l

/- Of the files, those that are stored are changed. -/
theorem Stores.changesOnly
    {files : List UploadFile}
    {t v : FileTree}
    (hStores : Stores root files t v) :
    t.ChangesOnly v (LocatesAny root files v)
      (LeadsToAny root files v) := by
  induction hStores with
  | nil t => exact .refl t _ _
  | @cons f files t u v hStore hMore ih =>
      have hFirst :=
        storeFile_changesOnly (resolve root f.path) f.bytes t
      rw [hStore] at hFirst
      have hKeeps := ih.toKeepsDirectories
      have hHead :
          t.ChangesOnly u (LocatesAny root (f :: files) v)
            (LeadsToAny root (f :: files) v) := by
        apply hFirst.mono
        · intro l hPlace
          exact ⟨f, List.mem_cons_self,
            FileTree.locate_of_keepsDirectories hKeeps hPlace⟩
        · rintro l ⟨q, hAbove, hPlace⟩
          exact ⟨f, List.mem_cons_self, q, hAbove,
            FileTree.locate_of_keepsDirectories hKeeps hPlace⟩
      have hTail :
          u.ChangesOnly v (LocatesAny root (f :: files) v)
            (LeadsToAny root (f :: files) v) := by
        apply ih.mono
        · rintro l ⟨g, hMem, hPlace⟩
          exact ⟨g, List.mem_cons_of_mem f hMem, hPlace⟩
        · rintro l ⟨g, hMem, hAbove⟩
          exact ⟨g, List.mem_cons_of_mem f hMem, hAbove⟩
      exact hHead.trans hTail

/- A file that is not stored leaves directories behind at most. -/
theorem storeFile_eq_error
    {file : String}
    {bytes : Bytes}
    {t v : FileTree}
    {cause : Fault}
    (hStore : storeFile file bytes t = (.error cause, v)) :
    v = (makeParent t file).2 := by
  unfold storeFile at hStore
  rcases hParent : makeParent t file with ⟨f | ⟨⟩, made⟩
  · rw [hParent] at hStore
    cases hStore
    rfl
  · rw [hParent] at hStore
    dsimp only at hStore ⊢
    cases hWrite : made.write file bytes with
    | ok written =>
        rw [hWrite] at hStore
        cases hStore
    | error e =>
        rw [hWrite] at hStore
        cases hStore
        rfl

variable {files done : List UploadFile} {w v : World ρ}
variable {result : Except Fault (List String)}

/-
  An upload to a directory changes the files that were taken
  and no others, and makes directories on the way to the files
  that it was to store.
-/
theorem Uploads.changesOnly
    (hActs : repository.ActsBelow root)
    (hUploads : repository.Uploads files done w result v) :
    w.tree.ChangesOnly v.tree (LocatesAny root done v.tree)
      (LeadsToAny root files v.tree) := by
  cases hUploads with
  | finished hPuts => exact (hPuts.stores hActs).changesOnly
  | @stopped _ rest f cause _ u _ hPuts hPut =>
      have hDone := (hPuts.stores hActs).changesOnly
      rcases hActs.fails _ _ _ _ _ hPut with ⟨cause', hStore⟩
      have hMade :=
        makeParent_changesOnly u.tree (resolve root f.path)
      -- The last file leaves no more than the directories above it.
      rw [← storeFile_eq_error hStore] at hMade
      have hKeeps := hMade.toKeepsDirectories
      have hFirst :
          w.tree.ChangesOnly u.tree (LocatesAny root done v.tree)
            (LeadsToAny root (done ++ f :: rest) v.tree) := by
        apply hDone.mono
        · rintro l ⟨g, hMem, hPlace⟩
          exact ⟨g, hMem,
            FileTree.locate_of_keepsDirectories hKeeps hPlace⟩
        · rintro l ⟨g, hMem, q, hAbove, hPlace⟩
          exact ⟨g, List.mem_append_left _ hMem, q, hAbove,
            FileTree.locate_of_keepsDirectories hKeeps hPlace⟩
      apply hFirst.trans
      apply hMade.mono
      · exact fun _ => False.elim
      · rintro l ⟨q, hAbove, hPlace⟩
        exact ⟨f, List.mem_append_right _ List.mem_cons_self, q,
          hAbove, hPlace⟩

/-
  A file that was taken is there with its bytes, unless one
  that is not apart from it was taken later.
-/
theorem Uploads.read_back
    (hActs : repository.ActsBelow root)
    (hUploads : repository.Uploads files done w result v)
    {before after : List UploadFile}
    {f : UploadFile}
    (hDone : done = before ++ f :: after)
    (hApart :
      ∀ g ∈ after,
        Path.Apart (resolve root f.path) (resolve root g.path)) :
    v.tree.read (resolve root f.path) = .ok f.bytes := by
  subst hDone
  cases hUploads with
  | finished hPuts => exact (hPuts.stores hActs).read_back hApart
  | stopped hPuts hPut =>
      have hRead := (hPuts.stores hActs).read_back hApart
      rcases hActs.fails _ _ _ _ _ hPut with ⟨cause, hStore⟩
      rw [storeFile_eq_error hStore]
      exact read_of_grows (makeParent_changesOnly _ _).grows hRead

end Repository

end ReleasePipeline
