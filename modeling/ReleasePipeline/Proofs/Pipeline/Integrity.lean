import ReleasePipeline.Proofs.Pipeline.Order
import ReleasePipeline.Proofs.Publish.Layout

/-
  This file proves that a release stores what was built and
  signed.  The outputs are read once.  The bytes that were
  read are the ones that are signed, stored, digested and
  reported, and no document is stored with the signature or
  the digest of another.

  Key definitions include:
    * `Artifact.ReadFrom`, `ArtifactSet.ReadFrom`
    * `Pipeline.Ready`
    * `Pipeline.Faithful`

  Main declarations:
    * `Pipeline.faithful_moment`
    * `Pipeline.stores_what_was_signed`
-/

------------------------------------------------------------
-- Outputs
------------------------------------------------------------

namespace ReleasePipeline

/- An output that stands in a tree where a plan says. -/
structure Artifact.ReadFrom
    (a : Artifact)
    (plan : ReleasePlan)
    (kind : ArtifactKind)
    (t : FileTree) : Prop where
  kind_eq : a.kind = kind
  path_eq :
    a.path =
      Assembly.outputPath plan.root plan.artifacts
        plan.metadata.artifact plan.version kind
  bytes_eq : t.read a.path = .ok a.bytes

/- The outputs of a plan as they stand in a tree. -/
structure ArtifactSet.ReadFrom
    (s : ArtifactSet)
    (plan : ReleasePlan)
    (t : FileTree) : Prop where
  binary : s.binary.ReadFrom plan .binary t
  sources : s.sources.ReadFrom plan .sources t
  docs : s.docs.ReadFrom plan .docs t

namespace Assembly

/- An output has the bytes that its file has. -/
theorem readOutput_eq_ok
    {t : FileTree}
    {kind : ArtifactKind}
    {path : String}
    {a : Artifact}
    (hRead : readOutput t kind path = .ok a) :
    a.kind = kind ∧ a.path = path ∧ t.read a.path = .ok a.bytes := by
  unfold readOutput at hRead
  cases hFile : t.read path with
  | error e =>
      rw [hFile] at hRead
      cases hRead
  | ok bytes =>
      rw [hFile] at hRead
      cases hRead
      exact ⟨rfl, rfl, hFile⟩

/- All outputs are read from the same tree. -/
theorem collect_eq_ok
    {plan : ReleasePlan}
    {t : FileTree}
    {s : ArtifactSet}
    (hCollect :
      collect plan.root plan.artifacts plan.metadata.artifact
        plan.version t = .ok s) :
    s.ReadFrom plan t := by
  unfold collect at hCollect
  rcases Except.bind_eq_ok hCollect with ⟨binary, hBinary, hCollect⟩
  rcases Except.bind_eq_ok hCollect with ⟨sources, hSources, hCollect⟩
  rcases Except.bind_eq_ok hCollect with ⟨docs, hDocs, hCollect⟩
  cases hCollect
  rcases readOutput_eq_ok hBinary with ⟨hKind, hPath, hBytes⟩
  rcases readOutput_eq_ok hSources with ⟨hKind', hPath', hBytes'⟩
  rcases readOutput_eq_ok hDocs with ⟨hKind'', hPath'', hBytes''⟩
  exact ⟨⟨hKind, hPath, hBytes⟩, ⟨hKind', hPath', hBytes'⟩,
    ⟨hKind'', hPath'', hBytes''⟩⟩

end Assembly

/- Outputs that were put together stand in the tree left behind. -/
theorem Pipeline.assemble_eq_ok
    {σ : Type}
    {p : Pipeline σ}
    {w v : World σ}
    {s : ArtifactSet}
    (hAssemble : p.assemble w = (.ok s, v)) :
    s.ReadFrom p.plan v.tree := by
  rcases Action.bind_eq_ok hAssemble with ⟨_, u, -, hCollect⟩
  have hRead := congrArg Prod.fst hCollect
  have hTree := congrArg Prod.snd hCollect
  change u = v at hTree
  rw [← hTree]
  exact Assembly.collect_eq_ok hRead

------------------------------------------------------------
-- Signatures
------------------------------------------------------------

section Signatures

variable {σ : Type}

/- A signer that is a function of the bytes gives its value. -/
theorem Signer.Answers.eq_ok
    {s : Signer σ}
    {signatureOf : Bytes → Except Fault Bytes}
    {data signature : Bytes}
    (hAnswers : s.Answers data signature)
    (hFunction : ∀ data w, (s.sign data w).1 = signatureOf data) :
    signatureOf data = .ok signature := by
  rcases hAnswers with ⟨w, v, hSign⟩
  rw [← hFunction data w, hSign]

/- What the signing program prints is refused without armor. -/
theorem Keyring.isArmored_of_answers
    {h : Host σ}
    {program : String}
    {k : Keyring}
    {data signature : Bytes}
    (hAnswers : (k.signer h program).Answers data signature) :
    isArmored signature = true := by
  rcases hAnswers with ⟨w, v, hSign⟩
  rcases Action.bind_eq_ok hSign with ⟨output, u, -, hOutput⟩
  by_cases hArmored : isArmored output = true
  · rw [if_pos hArmored] at hOutput
    cases hOutput
    exact hArmored
  · rw [if_neg hArmored] at hOutput
    cases hOutput

/- The signing program is the only signer of a credential. -/
theorem Signer.forCredential_eq_ok
    {h : Host σ}
    {c : Credential}
    {s : Signer σ}
    {w v : World σ}
    (hOpened : forCredential h c w = (.ok s, v)) :
    ∃ k program, s = Keyring.signer h program k := by
  cases c with
  | inMemory key passphrase program =>
      rcases Action.bind_eq_ok hOpened with ⟨made, u, -, hImported⟩
      rcases Action.bind_eq_ok hImported with ⟨output, u', -, hSigner⟩
      cases hSigner
      exact ⟨_, _, rfl⟩
  | agent key =>
      cases hOpened
      exact ⟨_, _, rfl⟩

end Signatures

------------------------------------------------------------
-- Documents
------------------------------------------------------------

namespace SignedRelease

/- The upload plan stores the files of the documents. -/
theorem content_filesOf (r : SignedRelease) :
    (Pipeline.filesOf r).map UploadFile.content =
      r.documents.flatMap StoredDocument.files := by
  simp only [Pipeline.filesOf, uploadPlan, members, signedFiles,
    documents, outputs, record, StoredDocument.files,
    UploadFile.content,
    List.flatMap_cons, List.flatMap_nil, List.flatMap_append,
    List.map_append, List.map_cons, List.map_nil, List.append_nil]

/- The signature of a document was given for its own bytes. -/
theorem SealedBy.answers
    {σ : Type}
    {r : SignedRelease}
    {b : Backend σ}
    {c : Credential}
    {artifacts : ArtifactSet}
    {m : ReleaseMetadata}
    {s : Signer σ}
    (hSealed : r.SealedBy b c artifacts m s) :
    ∀ d ∈ r.documents, s.Answers d.bytes d.signature := by
  rcases hSealed with
    ⟨-, hArtifacts, -, hDocument, hBinary, hSources, hDocs, hLast⟩
  rw [← hArtifacts] at hBinary hSources hDocs
  rw [← hDocument] at hLast
  intro d hMember
  simp only [documents, outputs, List.mem_append, List.mem_cons,
    List.not_mem_nil, or_false] at hMember
  rcases hMember with (rfl | rfl | rfl) | rfl
  · exact hBinary
  · exact hSources
  · exact hDocs
  · exact hLast

end SignedRelease

------------------------------------------------------------
-- What Is at Hand
------------------------------------------------------------

/- The files stored until a moment. -/
def Moment.stored
    {σ : Type}
    (m : Moment (Recorded σ)) : List (String × Bytes) :=
  m.world.outside.stored

namespace Pipeline

variable {σ α : Type}
variable {h : Host σ} {b : Backend σ}
variable {p : Pipeline (Recorded σ)}
variable {w : World (Recorded σ)}

/-
  Outputs that a run has read: they stood in the tree when
  they were handed on.
-/
def Assembled
    (p : Pipeline (Recorded σ))
    (w : World (Recorded σ))
    (artifacts : ArtifactSet) : Prop :=
  ∃ n, (p.moment w n).task = .passGate artifacts ∧
    artifacts.ReadFrom p.plan (p.moment w n).world.tree

/- A release that a run has at hand when it comes to publish. -/
structure Ready
    (p : Pipeline (Recorded σ))
    (b : Backend σ)
    (w : World (Recorded σ))
    (artifacts : ArtifactSet)
    (c : Credential)
    (s : Signer σ)
    (r : SignedRelease) : Prop where
  assembled : p.Assembled w artifacts
  selected : p.plan.signing.select = .ok c
  sealed : r.SealedBy b c artifacts p.plan.metadata s

/-
  Nothing is stored before there is a release to publish, and
  what is at hand has come from the tasks before.
-/
def Faithful
    (p : Pipeline (Recorded σ))
    (b : Backend σ)
    (w : World (Recorded σ))
    (m : Moment (Recorded σ)) : Prop :=
  match m.task with
  | .checkLock => m.stored = w.outside.stored
  | .assemble => m.stored = w.outside.stored
  | .passGate artifacts =>
      m.stored = w.outside.stored ∧ p.Assembled w artifacts
  | .select artifacts =>
      m.stored = w.outside.stored ∧ p.Assembled w artifacts
  | .sign artifacts c =>
      m.stored = w.outside.stored ∧ p.Assembled w artifacts ∧
        p.plan.signing.select = .ok c
  | .publish r mode =>
      m.stored = w.outside.stored ∧
        ∃ artifacts c s, p.Ready b w artifacts c s r ∧ mode = c.mode
  | .finished result =>
      (m.stored = w.outside.stored ∧ ∃ f, result = .error f) ∨
        ∃ artifacts c s r u,
          p.Ready b w artifacts c s r ∧
          u.outside.stored = w.outside.stored ∧
          p.publish r c.mode u = (result, m.world)

/-
  A task that stores nothing keeps a run faithful if the
  moment behind it is faithful.
-/
theorem faithful_after
    {a : Action (Recorded σ) α}
    {script : List Call}
    {value : α → Prop}
    (hFollows : a.Follows script [] value)
    {progress : Progress}
    {entered : List Stage}
    {task : α → Task}
    {u : World (Recorded σ)}
    (hStored : u.outside.stored = w.outside.stored)
    (hDone :
      ∀ x v, a u = (.ok x, v) → value x →
        v.outside.stored = w.outside.stored →
        Moment.after progress entered task (a u) =
          { task := task x
            progress := entered.foldl Progress.enter progress
            world := v } →
        p.Faithful b w
          { task := task x
            progress := entered.foldl Progress.enter progress
            world := v }) :
    p.Faithful b w (Moment.after progress entered task (a u)) := by
  rcases hFollows.after_cases progress entered task u with
    ⟨made, kept, v, -, hNext, -, hKept, hCase⟩
  have hSame : v.outside.stored = w.outside.stored := by
    rw [hNext, List.prefix_nil.mp hKept, List.append_nil, hStored]
  rcases hCase with ⟨x, hValue, -, -, hRun, hAfter⟩ | ⟨f, hAfter⟩
  · have hFaithful := hDone x v hRun hValue hSame hAfter
    rw [hAfter]
    exact hFaithful
  · rw [hAfter]
    exact .inl ⟨hSame, f, rfl⟩

/- Every task keeps a run faithful. -/
theorem faithful_next
    (hHost : p.host = h.beside)
    (hBackend : p.backend = b.recorded)
    {n : Nat}
    (hFaithful : p.Faithful b w (p.moment w n)) :
    p.Faithful b w (p.moment w (n + 1)) := by
  have hMoment : p.moment w (n + 1) = p.next (p.moment w n) := rfl
  rcases hAt : p.moment w n with ⟨task, progress, u⟩
  rw [hAt] at hFaithful hMoment
  cases task with
  | checkLock =>
      rw [hMoment]
      apply faithful_after (checkLock_follows hBackend) hFaithful
      intro _ v _ _ hStored _
      exact hStored
  | assemble =>
      rw [hMoment]
      apply faithful_after (assemble_follows hHost) hFaithful
      intro artifacts v hRun _ hStored hAfter
      have hNext : p.moment w (n + 1) = _ := hMoment.trans hAfter
      refine ⟨hStored, n + 1, ?_⟩
      rw [hNext]
      exact ⟨rfl, assemble_eq_ok hRun⟩
  | passGate artifacts =>
      rcases hFaithful with ⟨hBefore, hAssembled⟩
      rw [hMoment]
      apply faithful_after passGate_follows hBefore
      intro _ v _ _ hStored _
      exact ⟨hStored, hAssembled⟩
  | select artifacts =>
      rcases hFaithful with ⟨hBefore, hAssembled⟩
      rw [hMoment]
      apply faithful_after credential_follows hBefore
      intro c v _ hSelected hStored _
      exact ⟨hStored, hAssembled, hSelected⟩
  | sign artifacts c =>
      rcases hFaithful with ⟨hBefore, hAssembled, hSelected⟩
      rw [hMoment]
      apply faithful_after (sign_follows hBackend c artifacts) hBefore
      intro r v _ hSealed hStored _
      rcases hSealed with ⟨s, hSealed⟩
      exact ⟨hStored, artifacts, c, s,
        ⟨hAssembled, hSelected, hSealed⟩, rfl⟩
  | publish r mode =>
      rcases hFaithful with ⟨hBefore, artifacts, c, s, hReady, hMode⟩
      subst hMode
      rw [hMoment]
      change p.Faithful b w
        (Moment.after progress [.published]
          (fun receipt => .finished (.ok receipt))
          (p.publish r c.mode u))
      rcases hRun : p.publish r c.mode u with ⟨f | receipt, v⟩
      · exact Or.inr ⟨artifacts, c, s, r, u, hReady, hBefore, hRun⟩
      · exact Or.inr ⟨artifacts, c, s, r, u, hReady, hBefore, hRun⟩
  | finished result =>
      rw [hMoment]
      exact hFaithful

/- All moments of a run are faithful. -/
theorem faithful_moment
    (hHost : p.host = h.beside)
    (hBackend : p.backend = b.recorded)
    (n : Nat) :
    p.Faithful b w (p.moment w n) := by
  induction n with
  | zero => exact rfl
  | succ n ih => exact faithful_next hHost hBackend ih

------------------------------------------------------------
-- Runs
------------------------------------------------------------

/- What a run comes to, seen from its last task. -/
theorem run_faithful
    {plan : ReleasePlan}
    (hPlan : ofPlan plan h.beside b.recorded = .ok p)
    (w : World (Recorded σ)) :
    ((p.run w).2.2.outside.stored = w.outside.stored ∧
        ∃ f, (p.run w).1 = .error f) ∨
      ∃ artifacts c s r u,
        p.Ready b w artifacts c s r ∧
        u.outside.stored = w.outside.stored ∧
        p.publish r c.mode u = ((p.run w).1, (p.run w).2.2) := by
  rcases ofPlan_fields hPlan with ⟨-, hHost, hBackend, hProgress⟩
  have hInit := init_of_start hProgress
  rcases run_eq_moment hInit w with ⟨result, hTask, hRun⟩
  have hFaithful : p.Faithful b w (p.moment w 6) :=
    faithful_moment hHost hBackend 6
  unfold Faithful at hFaithful
  rw [hTask] at hFaithful
  rw [hRun]
  exact hFaithful

/- The paths and the bytes of the documents of a sealed release. -/
theorem contents_of_sealed
    {r : SignedRelease}
    {c : Credential}
    {artifacts : ArtifactSet}
    {m : ReleaseMetadata}
    {s : Signer σ}
    (hSealed : r.SealedBy b c artifacts m s) :
    r.documents.map (fun d => (d.path, d.bytes)) =
      artifacts.members.map (fun a =>
          ((Layout.ofMetadata m).artifactPath a, a.bytes)) ++
        [((Layout.ofMetadata m).metadataPath, m.document)] := by
  rcases hSealed with ⟨-, hArtifacts, hMetadata, hDocument, -, -, -, -⟩
  subst hArtifacts hMetadata
  rw [← hDocument]
  rfl

/- The entries of a receipt, written with the outputs. -/
theorem entries_of_read
    {r : SignedRelease}
    {plan : ReleasePlan}
    {t : FileTree}
    (hRead : r.artifacts.ReadFrom plan t) :
    Receipt.entries (Layout.ofMetadata r.metadata) r.artifacts =
      List.zipWith
        (fun kind d =>
          { member := kind, path := d.path
            sha256 := Sha256.hexDigest d.bytes })
        ArtifactKind.all r.outputs := by
  rw [Receipt.entries, ArtifactSet.members, ArtifactKind.all,
    SignedRelease.outputs, ← hRead.binary.kind_eq,
    ← hRead.sources.kind_eq, ← hRead.docs.kind_eq]
  rfl

/-
  What a run stores is the beginning of one list of files:
  for the outputs that were read and then for the metadata of
  the plan, the document, its signature and its digest.  It is
  the whole list if the run succeeds, and the receipt tells
  where each file went and what digest each output has.
-/
theorem stores_what_was_signed
    {plan : ReleasePlan}
    (hPlan : ofPlan plan h.beside b.recorded = .ok p)
    (w : World (Recorded σ)) :
    ∃ kept,
      (p.run w).2.2.outside.stored = w.outside.stored ++ kept ∧
      ((kept = [] ∧ ∃ f, (p.run w).1 = .error f) ∨
        ∃ artifacts c s r,
          p.Ready b w artifacts c s r ∧
          r.documents.map (fun d => (d.path, d.bytes)) =
            artifacts.members.map (fun a =>
                ((Layout.ofMetadata plan.metadata).artifactPath a,
                  a.bytes)) ++
              [((Layout.ofMetadata plan.metadata).metadataPath,
                plan.metadata.document)] ∧
          (∀ d ∈ r.documents, s.Answers d.bytes d.signature) ∧
          (∀ signatureOf : Bytes → Except Fault Bytes,
            (∀ data u, (s.sign data u).1 = signatureOf data) →
            ∀ d ∈ r.documents,
              signatureOf d.bytes = .ok d.signature) ∧
          (∀ g, b.signer = Signer.forCredential g →
            ∀ d ∈ r.documents,
              Utf8.encode Keyring.armorLine <+: d.signature) ∧
          kept <+: r.documents.flatMap StoredDocument.files ∧
          ∀ receipt, (p.run w).1 = .ok receipt →
            kept = r.documents.flatMap StoredDocument.files ∧
            receipt.artifacts =
              List.zipWith
                (fun kind d =>
                  { member := kind, path := d.path
                    sha256 := Sha256.hexDigest d.bytes })
                ArtifactKind.all r.outputs ∧
            ∃ target repository,
              plan.router.route plan.version = .ok target ∧
              (∃ u v, b.repository target plan.timeout u =
                (.ok repository, v)) ∧
              receipt.uploaded =
                kept.map fun f => repository.location f.1) := by
  rcases ofPlan_fields hPlan with ⟨rfl, -, hBackend, -⟩
  rcases run_faithful hPlan w with
    ⟨hNone, hFailed⟩ | ⟨artifacts, c, s, r, u, hReady, hBefore, hPublish⟩
  · exact ⟨[], by rw [hNone, List.append_nil], .inl ⟨rfl, hFailed⟩⟩
  have hAnswers := hReady.sealed.answers
  have hFunction :
      ∀ signatureOf : Bytes → Except Fault Bytes,
        (∀ data u, (s.sign data u).1 = signatureOf data) →
        ∀ d ∈ r.documents, signatureOf d.bytes = .ok d.signature :=
    fun _ hSign d hMember => (hAnswers d hMember).eq_ok hSign
  have hArmored :
      ∀ g, b.signer = Signer.forCredential g →
        ∀ d ∈ r.documents,
          Utf8.encode Keyring.armorLine <+: d.signature := by
    intro g hSigner d hMember
    rcases hReady.sealed.opened with ⟨w', v', hOpened⟩
    rw [hSigner] at hOpened
    rcases Signer.forCredential_eq_ok hOpened with ⟨k, program, rfl⟩
    have hArmor := Keyring.isArmored_of_answers (hAnswers d hMember)
    exact List.isPrefixOf_iff_prefix.mp hArmor
  have hContents := contents_of_sealed hReady.sealed
  cases hRoute : p.plan.router.route p.plan.version with
  | error f =>
      rcases publish_follows_of_no_target hRoute u _ _ hPublish with
        ⟨made, kept, -, hStored, -, hKept, hAll⟩
      rw [List.prefix_nil.mp hKept, hBefore] at hStored
      refine ⟨[], hStored, .inr ⟨artifacts, c, s, r, hReady, hContents,
        hAnswers, hFunction, hArmored, List.nil_prefix, ?_⟩⟩
      intro receipt hOk
      exact (hAll receipt hOk).2.2.elim
  | ok target =>
      rcases publish_follows hBackend hRoute r c.mode u _ _ hPublish with
        ⟨made, kept, -, hStored, -, hKept, hAll⟩
      rw [hBefore] at hStored
      rw [SignedRelease.content_filesOf] at hKept hAll
      refine ⟨kept, hStored, .inr ⟨artifacts, c, s, r, hReady, hContents,
        hAnswers, hFunction, hArmored, hKept, ?_⟩⟩
      intro receipt hOk
      rcases hAll receipt hOk with
        ⟨-, hWhole, repository, hOpened, hReports⟩
      rcases hReady.assembled with ⟨n, -, hRead⟩
      have hEntries :=
        entries_of_read (hReady.sealed.artifacts_eq ▸ hRead)
      refine ⟨hWhole, hReports.artifacts.trans hEntries, target,
        repository, rfl, hOpened, ?_⟩
      rw [hReports.uploaded, hWhole,
        ← SignedRelease.content_filesOf, List.map_map]
      rfl

/- The small release stores what was signed. -/
theorem sample_stores_what_was_signed :
    ofPlan Sample.plan Sample.host.beside Sample.backend.recorded =
        .ok Sample.pipeline ∧
      ∃ kept,
        (Sample.pipeline.run Sample.world).2.2.outside.stored = kept ∧
        ((kept = [] ∧ ∃ f,
            (Sample.pipeline.run Sample.world).1 = .error f) ∨
          ∃ r : SignedRelease,
            kept <+: r.documents.flatMap StoredDocument.files ∧
            ∀ d ∈ r.documents,
              Utf8.encode Keyring.armorLine <+: d.signature) := by
  refine ⟨Sample.ofPlan_eq, ?_⟩
  rcases stores_what_was_signed Sample.ofPlan_eq Sample.world with
    ⟨kept, hStored, hCase⟩
  refine ⟨kept, hStored, ?_⟩
  rcases hCase with
    hNone | ⟨_, _, _, r, _, _, _, _, hArmored, hKept, _⟩
  · exact .inl hNone
  · exact .inr ⟨r, hKept, hArmored Sample.host rfl⟩

end Pipeline

end ReleasePipeline
