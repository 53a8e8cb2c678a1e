import ReleasePipeline.Proofs.Config.Names
import ReleasePipeline.Proofs.Config.Resolution
import ReleasePipeline.Proofs.Pipeline.Integrity
import ReleasePipeline.Proofs.Pipeline.Publication

/-
  This file proves what can be read back from a local
  repository when a release has succeeded.  Everything has the
  bytes that were planned, unless the binary has the extension
  of the metadata document.  Then the document, its signature
  and its digest stand in the place of the binary's.

  Main declarations:
    * `Repository.Stores.read_all`
    * `Pipeline.reads_back_iff`
-/

------------------------------------------------------------
-- Reading Back
------------------------------------------------------------

namespace ReleasePipeline

namespace Repository

variable {root : String}

/- Files are stored in two parts. -/
theorem Stores.split
    {first second : List UploadFile}
    {t v : FileTree}
    (hStores : Stores root (first ++ second) t v) :
    ∃ u, Stores root first t u ∧ Stores root second u v := by
  induction first generalizing t with
  | nil => exact ⟨t, .nil t, hStores⟩
  | cons f first ih =>
      cases hStores with
      | cons hStore hMore =>
          rcases ih hMore with ⟨u, hFirst, hSecond⟩
          exact ⟨u, .cons hStore hFirst, hSecond⟩

/- Files with distinct paths in one directory are all there. -/
theorem Stores.read_all
    {l : Layout}
    {files : List UploadFile}
    {t v : FileTree}
    (hStores : Stores root files t v)
    (hPlain : l.StaysInPlace)
    (hHolds : ∀ f ∈ files, l.Holds f.path)
    (hNodup : (files.map (·.path)).Nodup) :
    ∀ f ∈ files, v.read (resolve root f.path) = .ok f.bytes := by
  intro f hFile
  rcases List.append_of_mem hFile with ⟨before, after, rfl⟩
  apply hStores.read_back
  intro g hAfter
  have hOther : g ∈ before ++ f :: after := by simp [hAfter]
  apply Layout.apart_of_ne hPlain root (hHolds f hFile)
    (hHolds g hOther)
  rw [List.map_append, List.map_cons, List.nodup_append] at hNodup
  have hLater := (List.nodup_cons.mp hNodup.2.1).1
  intro hEq
  exact hLater (List.mem_map.mpr ⟨g, hAfter, hEq.symm⟩)

end Repository

------------------------------------------------------------
-- Local Releases
------------------------------------------------------------

namespace Pipeline

variable {σ : Type}
variable {h : Host σ} {b : Backend σ}
variable {p : Pipeline (Recorded σ)}

/- A recorded backend opens the repositories of its targets. -/
theorem opensBelow_of_recorded
    (hBackend : p.backend = b.recorded)
    (hRepository :
      ∀ target timeout,
        b.repository target timeout =
          Repository.openTarget h target timeout)
    {target : PublishTarget}
    {directory : String}
    (hLocal : Repository.localPath? target.url = some directory) :
    p.OpensBelow target directory := by
  intro u v repository hOpen
  rw [hBackend] at hOpen
  change (Action.recorded _ (b.repository target p.plan.timeout) >>=
    fun r => pure r.recorded) u = _ at hOpen
  rw [hRepository, Repository.openTarget_of_local hLocal] at hOpen
  cases hOpen
  exact ⟨(Repository.storesBelow_atDirectory directory).recorded, rfl⟩

/- The files that are stored after those of the binary. -/
def laterFiles (r : SignedRelease) : List UploadFile :=
  let l := Layout.ofMetadata r.metadata
  let outputs := [(r.artifacts.sources, r.sourcesSignature),
    (r.artifacts.docs, r.docsSignature)]
  outputs.flatMap (fun m =>
      signedFiles m.1.kind.name (l.artifactPath m.1) m.1.bytes m.2) ++
    signedFiles metadataMember l.metadataPath r.document
      r.documentSignature

theorem filesOf_eq_append (r : SignedRelease) :
    filesOf r =
      signedFiles r.artifacts.binary.kind.name
          ((Layout.ofMetadata r.metadata).artifactPath
            r.artifacts.binary)
          r.artifacts.binary.bytes r.binarySignature ++
        laterFiles r := by
  simp only [filesOf, uploadPlan, laterFiles, SignedRelease.members,
    List.flatMap_cons, List.append_assoc]

/- The later files do not replace each other. -/
theorem nodup_laterFiles
    {r : SignedRelease}
    (hKinds : r.artifacts.KindsMatch) :
    ((laterFiles r).map (·.path)).Nodup := by
  have hPaths :
      (laterFiles r).map (·.path) =
        r.documents.tail.flatMap StoredDocument.paths := by
    simp only [laterFiles, signedFiles, SignedRelease.documents,
      SignedRelease.outputs, SignedRelease.record,
      StoredDocument.paths, StoredDocument.endings,
      List.flatMap_cons, List.flatMap_nil, List.map_cons,
      List.map_nil, List.append_nil, List.cons_append,
      List.nil_append, List.tail_cons, String.append_empty]
  rw [hPaths, List.nodup_flatMap]
  exact ⟨fun d _ => d.nodup_paths,
    SignedRelease.pairwise_disjoint_tail hKinds⟩

end Pipeline

------------------------------------------------------------
-- A Binary with the Extension of the Metadata
------------------------------------------------------------

namespace Sample

/- A configuration whose binary is called like its metadata. -/
def document : String :=
  "project=[\"g\",\"a\",\"1\",\"n\",\"d\",\"u\",[\"l\",\"u\"]," ++
    "[[\"n\",\"e\"]],[\"c\",\"d\",\"u\"]]\n" ++
  "lock=[\"l\"]\nquality=[\"quay-1\",[\"s\"],[],9]\n" ++
  "signing=[\"k\",\"w\",true]\n" ++
  "channels=[[\"-S\"],[\"/r\",\"u\",\"v\"],[\"/r\",\"u\",\"v\"]]\n" ++
  "artifacts=[[\"b.json\"],[\"s\"],[\"d\"]]\n"

/- What the document says. -/
def config : Config where
  project :=
    { group := "g", artifact := "a", version := some "1"
      name := some "n", description := "d", url := "u"
      license := metadata.license
      developers := metadata.developers
      scm := metadata.scm }
  lockSnapshot := "l"
  quality :=
    { QualityConfig.default with sources := ["s"], maxLineLength := 9 }
  signing :=
    { SigningConfig.default with
      keyEnv := "k", passphraseEnv := "w", agent := true }
  channels :=
    { markers := ["-S"]
      snapshot := { url := "/r", usernameEnv := "u", passwordEnv := "v" }
      release := { url := "/r", usernameEnv := "u", passwordEnv := "v" } }
  timeout := 60
  artifacts :=
    { binary := { path := "b.json", build := [] }
      sources := { path := "s", build := [] }
      docs := { path := "d", build := [] } }

/- The credentials of the repository and nothing else. -/
def environment : Environment :=
  fun name => if name = "u" ∨ name = "v" then some "x" else none

/- The plan that the configuration comes to. -/
def jsonPlan : ReleasePlan :=
  { plan with artifacts := config.artifacts, timeout := 60 }

/- The release before it is run. -/
def jsonPipeline : Pipeline (Recorded Unit) :=
  { pipeline with plan := jsonPlan }

/- The files of the release, and no repository yet. -/
def jsonWorld : World (Recorded Unit) where
  tree :=
    { entries :=
        [(["p"], .directory),
          (["p", "l"], .file (Utf8.encode "version=1\n")),
          (["p", "s"], .file []), (["p", "d"], .file []),
          (["p", "b.json"], .file [])]
      workingDirectory := [] }
  outside := { calls := [], outside := () }

theorem parse_document : Config.parse document = .ok config :=
  Except.eq_ok_of_toOption (by decide +kernel)

theorem resolve_config :
    config.resolve "/p" none none environment = .ok jsonPlan :=
  Except.eq_ok_of_toOption (by decide +kernel)

/- Nothing stops the release. -/
theorem run_jsonPipeline :
    ∃ receipt, (jsonPipeline.run jsonWorld).1 = .ok receipt := by
  have hSome :
      (jsonPipeline.run jsonWorld).1.toOption.isSome = true := by
    decide +kernel
  rcases Option.isSome_iff_exists.mp hSome with ⟨receipt, hReceipt⟩
  exact ⟨receipt, Except.eq_ok_of_toOption hReceipt⟩

end Sample

namespace Pipeline

variable {σ : Type}
variable {h : Host σ} {b : Backend σ}
variable {p : Pipeline (Recorded σ)}

/-
  A release into a local repository can be read back as it was
  planned, without any file replacing another, if and only if
  its binary does not have the extension of the metadata.  In
  any case the later files can be read back; and a binary with
  that extension has been replaced by the metadata document,
  its signature by that of the document, and so its digest.
-/
theorem reads_back_iff
    {text : String}
    {c : Config}
    (hParse : Config.parse text = .ok c)
    {root : String}
    {asked package : Option String}
    {env : Environment}
    {plan : ReleasePlan}
    (hResolve : c.resolve root asked package env = .ok plan)
    (hPlan : ofPlan plan h.beside b.recorded = .ok p)
    (hRepository :
      ∀ target timeout,
        b.repository target timeout =
          Repository.openTarget h target timeout)
    {target : PublishTarget}
    (hRoute : plan.router.route plan.version = .ok target)
    {directory : String}
    (hLocal : Repository.localPath? target.url = some directory)
    {w : World (Recorded σ)}
    {receipt : Receipt}
    (hRun : (p.run w).1 = .ok receipt) :
    ∃ artifacts credential s r,
      p.Ready b w artifacts credential s r ∧
      (filesOf r).length = 12 ∧
      (((filesOf r).map (·.path)).Nodup ↔
        artifacts.binary.extension ≠ "json") ∧
      (((filesOf r).map (·.path)).Nodup ∧
          (∀ f ∈ filesOf r,
            (p.run w).2.2.tree.read
                (Repository.resolve directory f.path) =
              .ok f.bytes) ↔
        artifacts.binary.extension ≠ "json") ∧
      (∀ f ∈ laterFiles r,
        (p.run w).2.2.tree.read
            (Repository.resolve directory f.path) =
          .ok f.bytes) ∧
      (artifacts.binary.extension = "json" →
        ∀ f ∈ signedFiles metadataMember
            ((Layout.ofMetadata r.metadata).artifactPath
              artifacts.binary)
            r.document r.documentSignature,
          (p.run w).2.2.tree.read
              (Repository.resolve directory f.path) =
            .ok f.bytes) := by
  rcases ofPlan_fields hPlan with ⟨rfl, -, hBackend, -⟩
  rcases run_faithful hPlan w with
    ⟨-, f, hFailed⟩ |
      ⟨artifacts, credential, s, r, u, hReady, -, hPublish⟩
  · rw [hRun] at hFailed
    cases hFailed
  rw [hRun] at hPublish
  have hOpens := opensBelow_of_recorded hBackend hRepository hLocal
  have hStores :
      Repository.Stores directory (filesOf r) u.tree
        (p.run w).2.2.tree :=
    stores_of_publication hRoute hOpens hPublish
  have hPlain :
      (Layout.ofMetadata r.metadata).StaysInPlace := by
    rw [hReady.sealed.metadata_eq, Config.metadata_of_resolve hResolve]
    exact Config.staysInPlace hParse p.plan.version
  have hArtifacts := hReady.sealed.artifacts_eq
  subst hArtifacts
  have hKinds : r.artifacts.KindsMatch := by
    rcases hReady.assembled with ⟨n, -, hRead⟩
    exact ⟨hRead.binary.kind_eq, hRead.sources.kind_eq,
      hRead.docs.kind_eq⟩
  have hHolds :
      ∀ f ∈ filesOf r, (Layout.ofMetadata r.metadata).Holds f.path :=
    fun f hFile => SignedRelease.holds_of_mem_uploadPlan hFile
  have hLater :
      ∀ f ∈ laterFiles r,
        (p.run w).2.2.tree.read
            (Repository.resolve directory f.path) =
          .ok f.bytes := by
    rw [filesOf_eq_append] at hStores
    rcases hStores.split with ⟨t, -, hRest⟩
    apply hRest.read_all hPlain _ (nodup_laterFiles hKinds)
    intro f hFile
    apply hHolds
    rw [filesOf_eq_append]
    exact List.mem_append_right _ hFile
  have hDistinct := SignedRelease.nodup_paths_iff hKinds
  refine ⟨r.artifacts, credential, s, r, hReady, rfl, hDistinct,
    ⟨?_, ?_⟩, hLater, ?_⟩
  · intro hAll
    exact hDistinct.mp hAll.1
  · intro hExt
    have hNodup := hDistinct.mpr hExt
    exact ⟨hNodup, hStores.read_all hPlain hHolds hNodup⟩
  · intro hExt f hFile
    apply hLater
    rw [SignedRelease.artifactPath_binary_of_json hKinds hExt] at hFile
    exact List.mem_append_right _ hFile

/- The sample succeeds, and its binary cannot be read back. -/
theorem sample_reads_back :
    Config.parse Sample.document = .ok Sample.config ∧
      Sample.config.resolve "/p" none none Sample.environment =
        .ok Sample.jsonPlan ∧
      ∃ receipt r,
        (Sample.jsonPipeline.run Sample.jsonWorld).1 = .ok receipt ∧
        r.artifacts.binary.extension = "json" ∧
        ¬ ((filesOf r).map (·.path)).Nodup ∧
        (Sample.jsonPipeline.run Sample.jsonWorld).2.2.tree.read
            (Repository.resolve "/r"
              ((Layout.ofMetadata r.metadata).artifactPath
                r.artifacts.binary)) =
          .ok r.document := by
  refine ⟨Sample.parse_document, Sample.resolve_config, ?_⟩
  rcases Sample.run_jsonPipeline with ⟨receipt, hRun⟩
  have hPlan :
      ofPlan Sample.jsonPlan Sample.host.beside Sample.backend.recorded =
        .ok Sample.jsonPipeline := rfl
  have hRoute :
      Sample.jsonPlan.router.route Sample.jsonPlan.version =
        .ok { channel := .release, url := "/r", username := ⟨"x"⟩
              password := ⟨"x"⟩ } := rfl
  have hLocal : Repository.localPath? "/r" = some "/r" := by
    decide
  rcases reads_back_iff Sample.parse_document Sample.resolve_config
      hPlan (fun _ _ => rfl) hRoute hLocal hRun with
    ⟨artifacts, c, s, r, hReady, -, hDistinct, -, -, hReplaced⟩
  have hArtifacts := hReady.sealed.artifacts_eq
  subst hArtifacts
  have hExt : r.artifacts.binary.extension = "json" := by
    rcases hReady.assembled with ⟨n, -, hRead⟩
    unfold Artifact.extension
    rw [hRead.binary.path_eq]
    decide
  refine ⟨receipt, r, hRun, hExt, ?_, ?_⟩
  · intro hNodup
    exact hDistinct.mp hNodup hExt
  · let binary : UploadFile :=
      { member := metadataMember
        path :=
          (Layout.ofMetadata r.metadata).artifactPath
            r.artifacts.binary
        bytes := r.document }
    exact hReplaced hExt binary List.mem_cons_self

end Pipeline

end ReleasePipeline
