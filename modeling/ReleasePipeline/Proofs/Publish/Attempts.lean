import ReleasePipeline.Proofs.Pipeline.Order
import ReleasePipeline.Proofs.Pipeline.Script
import ReleasePipeline.Proofs.Publish.Uploading

/-
  This file proves what an upload asks of its repository,
  whatever the repository makes of it.  The files are tried in
  their order and once each.  The first one that is refused is
  the last one that is tried; the failure names it, with the
  place where it was to go and the reason of the repository.
  Of the files of a release, those of the metadata document
  are tried only when all of the artifacts are stored.

  Key definitions include:
    * `Repository.Takes`, `Repository.Refuses`
    * `World.withRecord`
    * `artifactFiles`

  Main declarations:
    * `Repository.uploadAll_of_puts`
    * `Repository.uploadAll_of_refused`
    * `Repository.Puts.recorded`
    * `artifactFiles_before_metadata`
    * `Repository.tries_in_order`
-/

------------------------------------------------------------
-- Taking and Refusing
------------------------------------------------------------

namespace ReleasePipeline

namespace Repository

variable {ρ : Type} {repository : Repository ρ}

/- A repository that takes all files, one after another. -/
def Takes
    (repository : Repository ρ)
    (files : List UploadFile)
    (w : World ρ) : Prop :=
  ∃ v, repository.Puts files w v

/-
  A repository that takes some files and then refuses the next
  one.  What it does with a file may depend on all that it was
  given before.
-/
def Refuses
    (repository : Repository ρ)
    (files : List UploadFile)
    (w : World ρ)
    (done : List UploadFile)
    (f : UploadFile)
    (cause : Fault) : Prop :=
  ∃ rest u v,
    files = done ++ f :: rest ∧
      repository.Puts done w u ∧
      repository.put f.path f.bytes u = (.error cause, v)

theorem uploadAll_of_puts
    {files : List UploadFile}
    {w v : World ρ}
    (hPuts : repository.Puts files w v) :
    uploadAll repository files w =
      (.ok (files.map fun f => repository.location f.path), v) := by
  induction hPuts with
  | nil w => rfl
  | cons hPut hMore ih => exact uploadAll_cons_of_ok hPut ih

theorem uploadAll_of_refused
    {done rest : List UploadFile}
    {f : UploadFile}
    {cause : Fault}
    {w u v : World ρ}
    (hPuts : repository.Puts done w u)
    (hPut : repository.put f.path f.bytes u = (.error cause, v)) :
    uploadAll repository (done ++ f :: rest) w =
      (.error (uploadFault f (repository.location f.path) cause),
        v) := by
  induction hPuts with
  | nil w => exact uploadAll_cons_of_error hPut
  | cons hFirst hMore ih => exact uploadAll_cons_of_ok hFirst (ih hPut)

/- An upload succeeds just if every file is taken. -/
theorem uploadAll_eq_ok_iff
    {files : List UploadFile}
    {w : World ρ} :
    (∃ locations, (uploadAll repository files w).1 = .ok locations) ↔
      repository.Takes files w := by
  constructor
  · rintro ⟨locations, hOk⟩
    rcases repository.uploads_uploadAll files w with ⟨done, hUploads⟩
    rw [hOk] at hUploads
    cases hUploads with
    | finished hPuts => exact ⟨_, hPuts⟩
  · rintro ⟨v, hPuts⟩
    exact ⟨_, congrArg Prod.fst (uploadAll_of_puts hPuts)⟩

end Repository

------------------------------------------------------------
-- The Record of an Upload
------------------------------------------------------------

variable {σ : Type}

/- A world with a record of calls and of stored files. -/
def World.withRecord
    (w : World σ)
    (calls : List Call)
    (stored : List (String × Bytes)) : World (Recorded σ) where
  tree := w.tree
  outside := { calls, stored, outside := w.outside }

namespace Repository

variable {repository : Repository σ}
variable {calls : List Call} {stored : List (String × Bytes)}

/- A call is recorded in any case, a file if it is taken. -/
theorem put_recorded_of_put
    {f : UploadFile}
    {result : Except Fault Unit}
    {w v : World σ}
    (hPut : repository.put f.path f.bytes w = (result, v)) :
    repository.recorded.put f.path f.bytes
        (w.withRecord calls stored) =
      (result,
        v.withRecord (calls ++ [f.call])
          (if result.isOk then stored ++ [f.content] else stored)) := by
  change
    (Action.recorded (.put f.path f.bytes)
          (repository.put f.path f.bytes) >>= fun _ =>
        Action.noteStored f.path f.bytes)
      (w.withRecord calls stored) = _
  rw [Action.bind_apply]
  unfold Action.recorded Action.beside World.withRecord
  dsimp only
  rw [hPut]
  cases result with
  | error cause => rfl
  | ok taken => rfl

/- Files that are taken are recorded in their order. -/
theorem Puts.recorded
    {files : List UploadFile}
    {w v : World σ}
    (hPuts : repository.Puts files w v) :
    repository.recorded.Puts files (w.withRecord calls stored)
      (v.withRecord (calls ++ files.map UploadFile.call)
        (stored ++ files.map UploadFile.content)) := by
  induction hPuts generalizing calls stored with
  | nil w =>
      rw [List.map_nil, List.map_nil, List.append_nil, List.append_nil]
      exact .nil _
  | cons hPut hMore ih =>
      rw [List.map_cons, List.map_cons, List.append_cons,
        List.append_cons stored]
      exact .cons (put_recorded_of_put hPut) ih

end Repository

------------------------------------------------------------
-- The Files of the Artifacts
------------------------------------------------------------

/- The files of the artifacts of a release. -/
def artifactFiles
    (l : Layout)
    (r : SignedRelease) : List UploadFile :=
  r.members.flatMap fun m =>
    signedFiles m.1.kind.name (l.artifactPath m.1) m.1.bytes m.2

theorem length_artifactFiles
    (l : Layout)
    (r : SignedRelease) :
    (artifactFiles l r).length = 9 := by
  simp [artifactFiles, SignedRelease.members, signedFiles]

/- No artifact is called like the metadata document. -/
theorem member_of_mem_artifactFiles
    {l : Layout}
    {r : SignedRelease}
    {f : UploadFile}
    (hFile : f ∈ artifactFiles l r) :
    f.member ≠ metadataMember := by
  rcases List.mem_flatMap.mp hFile with ⟨m, -, hSigned⟩
  have hMember : f.member = m.1.kind.name := by
    unfold signedFiles at hSigned
    simp only [List.mem_cons, List.not_mem_nil, or_false] at hSigned
    rcases hSigned with rfl | rfl | rfl <;> rfl
  rw [hMember]
  cases m.1.kind <;> decide

/-
  The first files of a plan reach the metadata document only
  behind all files of the artifacts.
-/
theorem artifactFiles_before_metadata
    {l : Layout}
    {r : SignedRelease}
    {done : List UploadFile}
    {f : UploadFile}
    (hPrefix : done ++ [f] <+: uploadPlan l r)
    (hMetadata : ∃ g ∈ done ++ [f], g.member = metadataMember) :
    artifactFiles l r <+: done := by
  have hArtifacts : artifactFiles l r <+: uploadPlan l r :=
    List.prefix_append _ _
  rcases hMetadata with ⟨g, hMember, hName⟩
  rcases List.prefix_or_prefix_of_prefix hArtifacts hPrefix with
    hAll | hFew
  · rcases List.prefix_concat_iff.mp hAll with hSame | hAll
    · rw [← hSame] at hMember
      exact absurd hName (member_of_mem_artifactFiles hMember)
    · exact hAll
  · have hArtifact := hFew.subset hMember
    exact absurd hName (member_of_mem_artifactFiles hArtifact)

------------------------------------------------------------
-- Uploads
------------------------------------------------------------

namespace Repository

/-
  An upload tries its files in order and once each.  Either
  the repository takes all of them, and their places are the
  result, or the upload ends with the file that is refused
  first, which the failure names.  Of a release no file of the
  metadata document is tried unless the nine files of the
  artifacts are stored.
-/
theorem tries_in_order
    (repository : Repository σ)
    (files : List UploadFile)
    (w : World σ) :
    ∃ tried stored result v,
      uploadAll repository files w = (result, v) ∧
      uploadAll repository.recorded files (w.withRecord [] []) =
        (result,
          v.withRecord (tried.map UploadFile.call)
            (stored.map UploadFile.content)) ∧
      tried <+: files ∧
      (repository.Takes files w ↔
        ∃ locations, result = .ok locations) ∧
      ((tried = files ∧ stored = files ∧
          result = .ok (files.map fun f => repository.location f.path)) ∨
        ∃ f cause,
          repository.Refuses files w stored f cause ∧
          tried = stored ++ [f] ∧
          result =
            .error (.release (.upload f.member
              (repository.location f.path) cause.message))) ∧
      ∀ l r, files = uploadPlan l r →
        (∃ f ∈ tried, f.member = metadataMember) →
          artifactFiles l r <+: stored ∧
            (artifactFiles l r).length = 9 := by
  have hTakes :
      repository.Takes files w ↔
        ∃ locations,
          (uploadAll repository files w).1 = .ok locations :=
    uploadAll_eq_ok_iff.symm
  rcases hResult : uploadAll repository files w with ⟨result, v⟩
  rw [hResult] at hTakes
  rcases repository.uploads_uploadAll files w with ⟨done, hUploads⟩
  rw [hResult] at hUploads
  cases hUploads with
  | finished hPuts =>
      refine ⟨files, files, _, v, rfl, uploadAll_of_puts hPuts.recorded,
        List.prefix_rfl, hTakes, .inl ⟨rfl, rfl, rfl⟩, ?_⟩
      rintro l r rfl -
      exact ⟨List.prefix_append _ _, length_artifactFiles l r⟩
  | @stopped _ rest f cause _ u _ hPuts hPut =>
      have hTried : done ++ [f] <+: done ++ f :: rest :=
        (List.prefix_append_right_inj done).mpr
          (List.prefix_append [f] rest)
      refine ⟨done ++ [f], done, _, v, rfl, ?_, hTried, hTakes,
        .inr ⟨f, cause, ⟨rest, u, v, rfl, hPuts, hPut⟩, rfl, rfl⟩, ?_⟩
      · rw [List.map_append]
        exact uploadAll_of_refused hPuts.recorded
          (put_recorded_of_put hPut)
      · intro l r hPlan hMetadata
        rw [hPlan] at hTried
        exact ⟨artifactFiles_before_metadata hTried hMetadata,
          length_artifactFiles l r⟩

end Repository

namespace Sample

/- A repository that has room for a number of files. -/
def smallRepository : Repository Nat where
  put _ _ w :=
    match w.outside with
    | 0 => (.error (.plain "there is no room"), w)
    | n + 1 => (.ok (), { w with outside := n })
  get _ := throw (.plain "nothing is given back")
  location path := "r/" ++ path

/- The world of a repository with room for ten files. -/
def roomForTen : World Nat where
  tree := { entries := [], workingDirectory := [] }
  outside := 10

/- Empty artifacts, and signatures of one byte. -/
def emptyRelease : SignedRelease where
  artifacts :=
    { binary := { kind := .binary, path := "b.jar", bytes := [] }
      sources := { kind := .sources, path := "s.jar", bytes := [] }
      docs := { kind := .docs, path := "d.jar", bytes := [] } }
  binarySignature := [1]
  sourcesSignature := [1]
  docsSignature := [1]
  metadata := metadata
  document := []
  documentSignature := [1]

/- Its files in the order of the upload. -/
def emptyFiles : List UploadFile :=
  uploadPlan (Layout.ofMetadata metadata) emptyRelease

end Sample

/-
  The signature of the metadata document is refused.  Since
  the document has been tried, the artifacts are stored.
-/
theorem Repository.sample_tries_in_order :
    (uploadAll Sample.smallRepository Sample.emptyFiles
        Sample.roomForTen).1 =
      .error (.release (.upload "metadata" "r/g/a/1/a-1.json.asc"
        "there is no room")) ∧
    ∃ tried stored : List UploadFile,
      (uploadAll Sample.smallRepository.recorded Sample.emptyFiles
          (Sample.roomForTen.withRecord [] [])).2.outside.calls =
        tried.map UploadFile.call ∧
      (∃ f ∈ tried, f.member = metadataMember) ∧
      artifactFiles (Layout.ofMetadata Sample.metadata)
          Sample.emptyRelease <+:
        stored := by
  refine ⟨by rfl, ?_⟩
  have hCalls :
      (uploadAll Sample.smallRepository.recorded Sample.emptyFiles
          (Sample.roomForTen.withRecord [] [])).2.outside.calls.length =
        11 := by
    decide +kernel
  rcases tries_in_order Sample.smallRepository Sample.emptyFiles
      Sample.roomForTen with
    ⟨tried, stored, result, v, -, hRecord, hTried, -, -, hStored⟩
  rw [hRecord] at hCalls
  have hLength : tried.length = 11 := by
    simpa [World.withRecord] using hCalls
  have hMetadata : ∃ f ∈ tried, f.member = metadataMember := by
    rw [List.prefix_iff_eq_take.mp hTried, hLength]
    refine ⟨(Sample.emptyFiles.take 11).getLast (by decide),
      List.getLast_mem _, by decide⟩
  refine ⟨tried, stored, ?_, hMetadata,
    (hStored _ _ rfl hMetadata).1⟩
  rw [hRecord]
  rfl

end ReleasePipeline
