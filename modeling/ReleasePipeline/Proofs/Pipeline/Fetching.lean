import ReleasePipeline.Proofs.Command.Success
import ReleasePipeline.Proofs.Pipeline.ReadBack
import ReleasePipeline.Proofs.Release.Metadata

/-
  This file proves that the metadata of a release that went to
  a local repository are found there.  The document is stored
  last, and only its own signature and digest follow it, so no
  other file of the release replaces it.

  Key definitions include:
    * `LocalRelease`
    * `LocalRelease.matchingOutcome`

  Main declarations:
    * `Pipeline.read_document_of_run`
    * `LocalRelease.of_release`
    * `LocalRelease.fetchMetadata_eq`
    * `LocalRelease.comparePublished_eq`
    * `LocalRelease.metadata_reads_back`
-/

------------------------------------------------------------
-- The Document in the Repository
------------------------------------------------------------

namespace ReleasePipeline

/- The metadata document is followed by two files only. -/
theorem uploadPlan_eq_append
    (l : Layout)
    (r : SignedRelease) :
    ∃ before,
      uploadPlan l r =
        before ++
          { member := metadataMember, path := l.metadataPath
            bytes := r.document } ::
          [{ member := metadataMember, path := l.metadataPath ++ ".asc"
             bytes := r.documentSignature },
            { member := metadataMember
              path := l.metadataPath ++ ".sha256"
              bytes := Utf8.encode (Sha256.hexDigest r.document) }] :=
  ⟨_, rfl⟩

/- A path with something behind it is another path. -/
theorem ne_append_of_ne_empty
    (path : String)
    {ending : String}
    (hEnding : ending ≠ "") :
    path ≠ path ++ ending := by
  intro hEq
  have hChars := congrArg String.toList hEq
  rw [String.toList_append, List.self_eq_append_right] at hChars
  exact hEnding (String.toList_inj.mp hChars)

namespace Pipeline

variable {σ : Type} {p : Pipeline σ}

/-
  After a release the repository has the metadata document of
  its plan.
-/
theorem read_document_of_run
    (hPlain : (Layout.ofMetadata p.plan.metadata).StaysInPlace)
    {target : PublishTarget}
    (hRoute : p.plan.router.route p.plan.version = .ok target)
    {directory : String}
    (hOpens : p.OpensBelow target directory)
    {w : World σ}
    {receipt : Receipt}
    (hRun : (p.run w).1 = .ok receipt) :
    (p.run w).2.2.tree.read
        (Repository.resolve directory
          (Layout.ofMetadata p.plan.metadata).metadataPath) =
      .ok p.plan.metadata.document := by
  rcases publish_of_run hRun with
    ⟨r, mode, u, hMetadata, hDocument, hPublish⟩
  have hStores := stores_of_publication hRoute hOpens hPublish
  rw [← hMetadata] at hPlain ⊢
  have hRecord := Layout.holds_metadataPath r.metadata
  rcases uploadPlan_eq_append (Layout.ofMetadata r.metadata) r with
    ⟨before, hPlan⟩
  rw [hPlan] at hStores
  rw [hMetadata, ← hDocument, ← hMetadata]
  refine hStores.read_back ?_
  have hApart :
      ∀ ending ∈ StoredDocument.endings, ending ≠ "" →
        Path.Apart
          (Repository.resolve directory
            (Layout.ofMetadata r.metadata).metadataPath)
          (Repository.resolve directory
            ((Layout.ofMetadata r.metadata).metadataPath ++ ending)) := by
    intro ending hEnding hNe
    exact Layout.apart_of_ne hPlain directory hRecord
      (hRecord.append_ending hEnding) (ne_append_of_ne_empty _ hNe)
  intro f hFile
  simp only [List.mem_cons, List.not_mem_nil, or_false] at hFile
  rcases hFile with rfl | rfl
  · exact hApart ".asc" (by decide) (by decide)
  · exact hApart ".sha256" (by decide) (by decide)

end Pipeline

------------------------------------------------------------
-- Local Releases
------------------------------------------------------------

/-
  The world that a release of a project leaves behind when it
  has succeeded in a local directory.
-/
structure LocalRelease
    {σ : Type}
    (p : Project)
    (c : Config)
    (env : Environment)
    (asked : Option String)
    (plan : ReleasePlan)
    (directory : String)
    (v : World σ) : Prop where
  parsed : ∃ text, Config.parse text = .ok c
  configured : p.config = some c
  planned : p.plan asked env = .ok plan
  stays :
    ∃ target, plan.router.route plan.version = .ok target ∧
      Repository.localPath? target.url = some directory
  made :
    ∃ (h : Host σ) (b : Backend σ) (timeout : Option Nat)
        (timed : ReleasePlan) (pipeline : Pipeline σ) (w : World σ)
        (receipt : Receipt),
      (∀ target seconds,
        b.repository target seconds =
          Repository.openTarget h target seconds) ∧
      Program.withTimeout plan timeout = .ok timed ∧
      Pipeline.ofPlan timed h b = .ok pipeline ∧
      (pipeline.run w).1 = .ok receipt ∧
      (pipeline.run w).2.2 = v

namespace LocalRelease

variable {σ τ : Type}
variable {p : Project} {c : Config} {env : Environment}
variable {asked : Option String} {plan : ReleasePlan}
variable {directory : String} {v : World σ}

/- What is planned is described by the configuration. -/
theorem metadata_of_plan
    (hConfig : p.config = some c)
    (hPlan : p.plan asked env = .ok plan) :
    plan.metadata = c.metadata plan.version := by
  unfold Project.plan Project.requireConfig at hPlan
  rw [hConfig] at hPlan
  exact Config.metadata_of_resolve hPlan

theorem metadata_eq
    (hRelease : LocalRelease p c env asked plan directory v) :
    plan.metadata = c.metadata plan.version :=
  metadata_of_plan hRelease.configured hRelease.planned

/- A release command that succeeds makes a release. -/
theorem of_release
    {text : String}
    (hParse : Config.parse text = .ok c)
    (hConfig : p.config = some c)
    (hPlan : p.plan asked env = .ok plan)
    {target : PublishTarget}
    (hRoute : plan.router.route plan.version = .ok target)
    (hLocal : Repository.localPath? target.url = some directory)
    {h : Host σ}
    {timeout : Option Nat}
    {json : Bool}
    {w : World σ}
    {o : Outcome}
    (hRun :
      Program.release h p env asked timeout json w = (o, v))
    (hDone : o.exitCode = 0) :
    LocalRelease p c env asked plan directory v := by
  rcases Program.release_eq_ok hRun hDone with
    ⟨found, timed, workspace, pipeline, receipt, hFound, hTimed, -,
      hPipeline, hReceipt, hWorld⟩
  rw [hPlan] at hFound
  cases hFound
  exact {
    parsed := ⟨text, hParse⟩
    configured := hConfig
    planned := hPlan
    stays := ⟨target, hRoute, hLocal⟩
    made :=
      ⟨h, .ofWorkspace h workspace, timeout, timed, pipeline, w,
        receipt, fun _ _ => rfl, hTimed, hPipeline, hReceipt, hWorld⟩ }

/- A release is only made with complete metadata. -/
theorem complete
    (hRelease : LocalRelease p c env asked plan directory v) :
    plan.metadata.developers ≠ [] ∧
      ∀ f ∈ plan.metadata.requiredFields, Text.isBlank f.2 = false := by
  rcases hRelease.made with
    ⟨h, b, timeout, timed, pipeline, w, receipt, -, hTimeout, hPlan, -⟩
  rcases Program.withTimeout_eq_ok hTimeout with ⟨seconds, rfl⟩
  have hValid := Pipeline.validate_of_ofPlan hPlan
  exact (ReleaseMetadata.validate_eq_ok_iff _).mp hValid

/- The metadata document is in the directory. -/
theorem read_document
    (hRelease : LocalRelease p c env asked plan directory v) :
    v.tree.read
        (Repository.resolve directory
          (Layout.ofMetadata plan.metadata).metadataPath) =
      .ok plan.metadata.document := by
  rcases hRelease.parsed with ⟨text, hParse⟩
  rcases hRelease.stays with ⟨target, hRoute, hLocal⟩
  have hPlain :
      (Layout.ofMetadata plan.metadata).StaysInPlace := by
    rw [hRelease.metadata_eq]
    exact Config.staysInPlace hParse plan.version
  rcases hRelease.made with
    ⟨h, b, timeout, timed, pipeline, w, receipt, hRepository, hTimeout,
      hPlan, hRun, rfl⟩
  rcases Program.withTimeout_eq_ok hTimeout with ⟨seconds, rfl⟩
  rcases Pipeline.ofPlan_fields hPlan with ⟨hSame, -, rfl, -⟩
  have hOpens : pipeline.OpensBelow target directory := by
    intro u u' repository hOpen
    rw [hRepository, Repository.openTarget_of_local hLocal] at hOpen
    cases hOpen
    exact ⟨Repository.storesBelow_atDirectory directory, rfl⟩
  have hRead :=
    Pipeline.read_document_of_run (p := pipeline)
      (by rw [hSame]; exact hPlain) (by rw [hSame]; exact hRoute)
      hOpens hRun
  rw [hSame] at hRead
  exact hRead

/- The metadata are fetched as they were configured. -/
theorem fetchMetadata_eq
    (hRelease : LocalRelease p c env asked plan directory v)
    (h : Host τ)
    {u : World τ}
    (hTree : u.tree = v.tree)
    {target : PublishTarget}
    (hRoute : plan.router.route plan.version = .ok target)
    (seconds : Nat) :
    fetchMetadata (Repository.forTarget h target seconds)
        (Layout.ofMetadata plan.metadata) u =
      (.ok plan.metadata, u) := by
  rcases hRelease.stays with ⟨found, hFound, hLocal⟩
  rw [hRoute] at hFound
  cases hFound
  unfold fetchMetadata Repository.forTarget
  rw [hLocal, Action.bind_apply]
  simp only [Repository.atDirectory, Action.inspect, hTree,
    hRelease.read_document, ioContext, Action.ofResult,
    ReleaseMetadata.ofDocument_document]

/- Nothing differs from itself. -/
theorem differingFields_self (m : ReleaseMetadata) :
    Program.differingFields m m = [] := by
  simp [Program.differingFields]

/- What is printed about published metadata that do not differ. -/
def matchingOutcome
    (directory : String)
    (m : ReleaseMetadata)
    (json : Bool) : Outcome :=
  if json then
    .document m.toDatum
  else
    .printing (Program.publishedLines
      (Repository.resolve directory (Layout.ofMetadata m).metadataPath)
      m [])

theorem matchingOutcome_exitCode
    (directory : String)
    (m : ReleaseMetadata)
    (json : Bool) :
    (matchingOutcome directory m json).exitCode = 0 := by
  cases json <;> rfl

/-
  A plan for the same target and metadata finds no difference
  to what is published.
-/
theorem comparePublished_eq
    (hRelease : LocalRelease p c env asked plan directory v)
    (h : Host τ)
    {u : World τ}
    (hTree : u.tree = v.tree)
    {later : ReleasePlan}
    (hMetadata : later.metadata = plan.metadata)
    (hRoute :
      later.router.route later.version =
        plan.router.route plan.version)
    (json : Bool) :
    Program.comparePublished h later json u =
      (.ok (matchingOutcome directory plan.metadata json), u) := by
  rcases hRelease.stays with ⟨target, hTarget, hLocal⟩
  have hFetch :=
    hRelease.fetchMetadata_eq h hTree hTarget later.timeout
  rw [Repository.forTarget_of_local hLocal] at hFetch
  unfold Program.comparePublished
  rw [hRoute, hTarget, hMetadata, Action.bind_apply]
  dsimp only [Except.mapError, Action.ofResult]
  rw [Repository.openTarget_of_local hLocal, pure_bind]
  change
    (fetchMetadata (Repository.atDirectory directory)
        (Layout.ofMetadata plan.metadata) >>= _) u = _
  rw [Action.bind_apply, hFetch]
  simp only [differingFields_self, Repository.location_atDirectory,
    if_true]
  rfl

/-
  Metadata are read back from their document, and published
  metadata are found as they were configured: by whoever
  fetches them, and by the command that compares them with the
  configuration, when it has the same version and credentials.
-/
theorem metadata_reads_back :
    (∀ m : ReleaseMetadata,
      ReleaseMetadata.ofDocument m.document = .ok m) ∧
    (LocalRelease p c env asked plan directory v →
      (c.metadata plan.version).developers ≠ [] ∧
      (∀ f ∈ (c.metadata plan.version).requiredFields,
        Text.isBlank f.2 = false) ∧
      ∀ {τ : Type} (h : Host τ) (u : World τ), u.tree = v.tree →
        (∀ target seconds,
          plan.router.route plan.version = .ok target →
            fetchMetadata (Repository.forTarget h target seconds)
                (Layout.ofMetadata (c.metadata plan.version)) u =
              (.ok (c.metadata plan.version), u)) ∧
        ∀ (p' : Project) (env' : Environment) (asked' : Option String)
            (plan' : ReleasePlan) (json : Bool),
          p'.config = some c →
          p'.plan asked' env' = .ok plan' →
          plan'.version = plan.version →
          plan'.router.route plan'.version =
            plan.router.route plan.version →
          Program.perform h p' env' (.metadata asked' true json) u =
              (matchingOutcome directory (c.metadata plan.version) json,
                u) ∧
            (matchingOutcome directory (c.metadata plan.version)
              json).exitCode = 0) := by
  refine ⟨ReleaseMetadata.ofDocument_document, ?_⟩
  intro hRelease
  rw [← hRelease.metadata_eq]
  refine ⟨hRelease.complete.1, hRelease.complete.2, ?_⟩
  intro τ h u hTree
  constructor
  · intro target seconds hRoute
    exact hRelease.fetchMetadata_eq h hTree hRoute seconds
  · intro p' env' asked' plan' json hConfig hPlan hVersion hRoute
    have hMetadata : plan'.metadata = plan.metadata := by
      rw [metadata_of_plan hConfig hPlan, hVersion,
        hRelease.metadata_eq]
    have hCompare :=
      hRelease.comparePublished_eq h hTree hMetadata hRoute json
    refine ⟨?_, matchingOutcome_exitCode _ _ _⟩
    unfold Program.perform Outcome.ofAction Program.describeMetadata
    dsimp only
    rw [Action.bind_apply]
    simp only [Action.ofResult, hPlan, if_true, hCompare,
      Outcome.ofResult]

end LocalRelease

namespace Sample

/- A project with the configuration and without dependencies. -/
def project : Project where
  root := "/p"
  config := some config
  workspace :=
    some { directory := "/p", packages := [], members := []
           root := .absent }

/- The files of the project. -/
def projectWorld : World Unit where
  tree := jsonWorld.tree
  outside := ()

theorem plan_project : project.plan none environment = .ok jsonPlan := by
  have hPlan :
      project.plan none environment =
        config.resolve "/p" none none environment := rfl
  rw [hPlan]
  exact resolve_config

/- The command succeeds, in a local repository. -/
theorem localRelease :
    ∃ o v,
      Program.release host project environment none none true
          projectWorld =
        (o, v) ∧
      LocalRelease project config environment none jsonPlan "/r" v := by
  have hDone :
      (Program.release host project environment none none true
        projectWorld).1.exitCode = 0 := by
    decide +kernel
  rcases hRun :
      Program.release host project environment none none true
        projectWorld with
    ⟨o, v⟩
  rw [hRun] at hDone
  have hRoute :
      jsonPlan.router.route jsonPlan.version =
        .ok { channel := .release, url := "/r", username := ⟨"x"⟩
              password := ⟨"x"⟩ } := rfl
  have hLocal : Repository.localPath? "/r" = some "/r" := by
    decide
  exact ⟨o, v, rfl, LocalRelease.of_release parse_document rfl
    plan_project hRoute hLocal hRun hDone⟩

end Sample

/- The metadata that the sample has published do not differ. -/
theorem LocalRelease.sample_metadata_reads_back :
    ∃ o v,
      Program.release Sample.host Sample.project Sample.environment
          none none true Sample.projectWorld =
        (o, v) ∧
      Program.perform Sample.host Sample.project Sample.environment
          (.metadata none true true) v =
        (matchingOutcome "/r" Sample.metadata true, v) := by
  rcases Sample.localRelease with ⟨o, v, hRun, hRelease⟩
  rcases metadata_reads_back.2 hRelease with ⟨-, -, hFound⟩
  rcases hFound Sample.host v rfl with ⟨-, hCompared⟩
  have hSame := hCompared Sample.project Sample.environment none
    Sample.jsonPlan true rfl Sample.plan_project rfl rfl
  exact ⟨o, v, hRun, hSame.1⟩

end ReleasePipeline
