import ReleasePipeline.Proofs.Command.Success
import ReleasePipeline.Proofs.Pipeline.Causes
import ReleasePipeline.Proofs.Publish.Confinement
import ReleasePipeline.Proofs.Publish.Uploading

/-
  This file proves what a release leaves behind when it fails.
  No task before the upload changes the tree of files, unless
  an output is built, so a release that fails earlier leaves
  it as it was.  An upload that fails leaves the files behind
  that were stored before the failure, and nothing else.

  Key definitions include:
    * `Backend.LeavesTree`
    * `Pipeline.Publishes`, `Pipeline.Untouched`
    * `Repository.Leaves`
    * `Config.launch`

  Main declarations:
    * `Backend.leavesTree_ofWorkspace`
    * `Pipeline.untouched_next`
    * `Pipeline.untouched_run`
    * `Repository.Uploads.leaves`
    * `Config.failed_releases_leave_project`
-/

------------------------------------------------------------
-- Collaborators
------------------------------------------------------------

namespace ReleasePipeline

variable {σ α : Type}

/-
  Collaborators that leave the tree as it is: the graph is
  only looked at, the signer does not write, and a repository
  acts where the address of its target points.
-/
structure Backend.LeavesTree (b : Backend σ) : Prop where
  graph : b.resolvedGraph.LeavesTree fun _ => True
  signer : ∀ c, (b.signer c).LeavesTree Signer.LeavesTree
  repository :
    ∀ target timeout,
      (b.repository target timeout).LeavesTree
        (·.ActsAt (Repository.localPath? target.url))

/- The collaborators of a workspace do, if the host does. -/
theorem Backend.leavesTree_ofWorkspace
    {h : Host σ}
    (hHost : h.LeavesTree)
    (w : Workspace) :
    (ofWorkspace h w).LeavesTree where
  graph := Action.leavesTree_inspect _
  signer := Signer.leavesTree_forCredential hHost
  repository := Repository.leavesTree_openTarget hHost

/- The failures of the collaborators themselves. -/
def Backend.FailsWith
    (b : Backend σ)
    (f : Fault) : Prop :=
  (∃ w, (b.resolvedGraph w).1 = .error f) ∨
    ∃ target timeout w, (b.repository target timeout w).1 = .error f

/- The failure of an upload. -/
def Fault.IsUpload (f : Fault) : Prop :=
  ∃ member location reason,
    f = .release (.upload member location reason)

/- A failure that came about without an upload. -/
def Backend.FailsBefore
    (b : Backend σ)
    (f : Fault) : Prop :=
  b.FailsWith f ∨ ¬ f.IsUpload

theorem Fault.Ordinary.not_isUpload
    {f : Fault}
    (hOrdinary : f.Ordinary) :
    ¬ f.IsUpload := by
  rintro ⟨member, location, reason, rfl⟩
  cases hOrdinary

theorem Fault.EndsAt.not_isUpload
    {f : Fault}
    {d : Hurdle}
    (hEnds : f.EndsAt d)
    (hOther : d ≠ .upload) :
    ¬ f.IsUpload := by
  rintro ⟨member, location, reason, rfl⟩
  rcases hEnds with ⟨cause, hCause, rfl⟩
  cases hCause
  exact hOther rfl

/- The collaborators of a workspace do not fail like an upload. -/
theorem Backend.not_isUpload_of_ofWorkspace
    {h : Host σ}
    {w : Workspace}
    {f : Fault}
    (hBefore : (ofWorkspace h w).FailsBefore f) :
    ¬ f.IsUpload := by
  rcases hBefore with
    (⟨v, hGraph⟩ | ⟨target, timeout, v, hOpened⟩) | hOther
  · exact (w.ordinary_resolvedGraph v.tree f hGraph).not_isUpload
  · have hOrdinary := Repository.ordinary_openTarget h target timeout v
    exact (hOrdinary f hOpened).not_isUpload
  · exact hOther

------------------------------------------------------------
-- Tasks
------------------------------------------------------------

namespace Pipeline

variable {p : Pipeline σ}

theorem leavesTree_checkLock (hLeaves : p.backend.LeavesTree) :
    p.checkLock.LeavesTree fun _ => True := by
  apply (Action.leavesTree_inspect _).bind
  intro snapshot _
  apply hLeaves.graph.bind
  intro graph _
  exact Action.leavesTree_ofResult _

/- Without build commands no program is run. -/
theorem buildAll_of_no_build
    {h : Host σ}
    {root : String}
    {c : ArtifactsConfig}
    (hBuild : ∀ kind, (c.member kind).build = [])
    (kinds : List ArtifactKind) :
    Assembly.buildAll h root c kinds = pure () := by
  induction kinds with
  | nil => rfl
  | cons kind kinds ih =>
      funext w
      unfold Assembly.buildAll Assembly.build
      rw [hBuild kind, ih]
      rfl

/- So the outputs are only looked at. -/
theorem idle_assemble
    (hBuild : ∀ kind, (p.plan.artifacts.member kind).build = []) :
    p.assemble.Idle := by
  unfold assemble Assembly.assemble
  rw [buildAll_of_no_build hBuild]
  exact (Action.idle_ofResult (.ok ())).bind
    fun _ => Action.idle_inspect _

theorem leavesTree_sign
    (hLeaves : p.backend.LeavesTree)
    (c : Credential)
    (artifacts : ArtifactSet) :
    (p.sign c artifacts).LeavesTree
      (·.metadata = p.plan.metadata) := by
  apply ((hLeaves.signer c).refine _).bind
  intro s hSigner
  have hSign (member : String) (data : Bytes) :
      (signMember s member data).LeavesTree fun _ => True :=
    (hSigner data).refine _
  apply (hSign _ _).bind
  intro binary _
  apply (hSign _ _).bind
  intro sources _
  apply (hSign _ _).bind
  intro docs _
  apply (hSign _ _).bind
  intro signature _
  apply Action.leavesTree_pure
  rfl

------------------------------------------------------------
-- Publication
------------------------------------------------------------

/-
  A run from a tree has come to the upload and has ended with
  a result and a world: a repository was opened for the target
  of the version, and what came of the upload is the result.
-/
def Publishes
    (p : Pipeline σ)
    (t : FileTree)
    (result : Except Fault Receipt)
    (v : World σ) : Prop :=
  ∃ r target repository done u,
    r.metadata = p.plan.metadata ∧
    p.plan.router.route p.plan.version = .ok target ∧
    (∃ u', p.backend.repository target p.plan.timeout u' =
      (.ok repository, u)) ∧
    u.tree = t ∧
    repository.Uploads (filesOf r) done u (result.map (·.uploaded)) v

/- A publication fails before the upload, or is one. -/
theorem publish_cases
    (hLeaves : p.backend.LeavesTree)
    {r : SignedRelease}
    (hMetadata : r.metadata = p.plan.metadata)
    (mode : SigningMode)
    (w : World σ) :
    ((p.publish r mode w).2.tree = w.tree ∧
      ∃ f, (p.publish r mode w).1 = .error f ∧
        p.backend.FailsBefore f) ∨
    p.Publishes w.tree (p.publish r mode w).1
      (p.publish r mode w).2 := by
  unfold publish
  rw [Action.bind_apply]
  cases hRoute : p.plan.router.route p.plan.version with
  | error f =>
      left
      have hFault :=
        p.plan.router.failsOnly_route p.plan.version (.release f)
          (by rw [hRoute]; rfl)
      exact ⟨rfl, .release f, rfl,
        .inr (hFault.not_isUpload nofun)⟩
  | ok target =>
      have hStep := hLeaves.repository target p.plan.timeout w
      dsimp only [Except.mapError, Action.ofResult]
      rw [Action.bind_apply]
      rcases hOpen : p.backend.repository target p.plan.timeout w with
        ⟨f | repository, u⟩
      · rw [hOpen] at hStep
        left
        refine ⟨hStep.1, f, rfl, .inl (.inr ?_)⟩
        exact ⟨target, _, w, congrArg Prod.fst hOpen⟩
      · rw [hOpen] at hStep
        right
        rcases repository.uploads_uploadAll (filesOf r) u with
          ⟨done, hUploads⟩
        refine ⟨r, target, repository, done, u, hMetadata, hRoute,
          ⟨w, hOpen⟩, hStep.1, ?_⟩
        dsimp only
        rw [Action.bind_apply]
        unfold filesOf at hUploads ⊢
        rcases hAll :
            uploadAll repository
              (uploadPlan (Layout.ofMetadata r.metadata) r) u with
          ⟨f | uploaded, v⟩
        · rw [hAll] at hUploads
          exact hUploads
        · rw [hAll] at hUploads
          exact hUploads

------------------------------------------------------------
-- Runs
------------------------------------------------------------

/-
  The tree of a run that has not come to the upload is what it
  was at the start.
-/
def Untouched
    (p : Pipeline σ)
    (t : FileTree)
    (m : Moment σ) : Prop :=
  match m.task with
  | .publish r _ => m.world.tree = t ∧ r.metadata = p.plan.metadata
  | .finished result =>
      (m.world.tree = t ∧
        ∃ f, result = .error f ∧ p.backend.FailsBefore f) ∨
      p.Publishes t result m.world
  | _ => m.world.tree = t

/- A task that leaves the tree as it is, and what may follow. -/
theorem untouched_after
    {t : FileTree}
    {a : Action σ α}
    {value : α → Prop}
    {kinds : Fault → Prop}
    {progress : Progress}
    {entered : List Stage}
    {task : α → Task}
    {w : World σ}
    (hLeaves : a.LeavesTree value)
    (hFails : a.FailsOnly kinds)
    (hBefore : ∀ f, kinds f → p.backend.FailsBefore f)
    (hTree : w.tree = t)
    (hNext :
      ∀ x progress v, value x → v.tree = t →
        p.Untouched t { task := task x, progress, world := v }) :
    p.Untouched t (.after progress entered task (a w)) := by
  have hStep := hLeaves w
  have hFault := hFails w
  rcases hResult : a w with ⟨f | x, v⟩
  · rw [hResult] at hStep hFault
    exact .inl ⟨hStep.1.trans hTree, f, rfl, hBefore f (hFault f rfl)⟩
  · rw [hResult] at hStep
    exact hNext x _ v (hStep.2 x rfl) (hStep.1.trans hTree)

/- No task but the last changes anything, and the last publishes. -/
theorem untouched_next
    (hLeaves : p.backend.LeavesTree)
    (hBuild : ∀ kind, (p.plan.artifacts.member kind).build = [])
    {t : FileTree}
    {m : Moment σ}
    (hUntouched : p.Untouched t m) :
    p.Untouched t (p.next m) := by
  have hEnds {d : Hurdle} (hOther : d ≠ .upload) :
      ∀ f, Fault.EndsAt d f → p.backend.FailsBefore f :=
    fun f hEnds => .inr (hEnds.not_isUpload hOther)
  rcases m with ⟨task, progress, w⟩
  cases task with
  | checkLock =>
      refine untouched_after (leavesTree_checkLock hLeaves)
        p.failsOnly_checkLock ?_ hUntouched fun _ _ _ _ hTree => hTree
      -- The graph is asked of the backend, which may fail at will.
      rintro f (hGraph | hOrdinary | hLock)
      · exact .inl (.inl hGraph)
      · exact .inr hOrdinary.not_isUpload
      · exact .inr (hLock.not_isUpload nofun)
  | assemble =>
      exact untouched_after (idle_assemble hBuild).leavesTree
        p.failsOnly_assemble (hEnds nofun) hUntouched
        fun _ _ _ _ hTree => hTree
  | passGate artifacts =>
      refine untouched_after (Action.leavesTree_inspect _)
        p.failsOnly_passGate ?_ hUntouched fun _ _ _ _ hTree => hTree
      rintro f (hOrdinary | hGate)
      · exact .inr hOrdinary.not_isUpload
      · exact .inr (hGate.not_isUpload nofun)
  | select artifacts =>
      exact untouched_after (Action.leavesTree_ofResult _)
        p.failsOnly_credential (hEnds nofun) hUntouched
        fun _ _ _ _ hTree => hTree
  | sign artifacts c =>
      exact untouched_after (leavesTree_sign hLeaves c artifacts)
        (p.failsOnly_sign c artifacts) (hEnds nofun) hUntouched
        fun _ _ _ hMetadata hTree => ⟨hTree, hMetadata⟩
  | publish r mode =>
      rcases hUntouched with ⟨hTree, hMetadata⟩
      have hCases := publish_cases hLeaves hMetadata mode w
      change w.tree = t at hTree
      rw [hTree] at hCases
      change p.Untouched t (.after _ _ _ (p.publish r mode w))
      rcases hResult : p.publish r mode w with ⟨f | receipt, v⟩
      · rw [hResult] at hCases
        exact hCases
      · rw [hResult] at hCases
        exact hCases
  | finished result => exact hUntouched

/- A run fails with the tree as it was, or it publishes. -/
theorem untouched_run
    (hLeaves : p.backend.LeavesTree)
    (hBuild : ∀ kind, (p.plan.artifacts.member kind).build = [])
    (hInit : p.progress.stage = .init)
    (w : World σ) :
    ((p.run w).2.2.tree = w.tree ∧
      ∃ f, (p.run w).1 = .error f ∧ p.backend.FailsBefore f) ∨
    p.Publishes w.tree (p.run w).1 (p.run w).2.2 := by
  have hUntouched : p.Untouched w.tree (p.moment w 6) := by
    apply moment_invariant
    · exact rfl
    · exact fun m => untouched_next hLeaves hBuild
  rcases run_eq_moment hInit w with ⟨result, hTask, hRun⟩
  unfold Untouched at hUntouched
  rw [hTask] at hUntouched
  rw [hRun]
  exact hUntouched

end Pipeline

------------------------------------------------------------
-- The Repository
------------------------------------------------------------

/-
  What an upload of files leaves behind, of which some were
  taken.  Of a remote repository the tree shows nothing.  In a
  local one nothing but these files is changed, except for
  directories that are made on the way to the files; all other
  files are what they were.  A file that was taken is there,
  unless one with the same path was taken later.
-/
def Repository.Leaves
    (files done : List UploadFile)
    (t v : FileTree) : Option String → Prop
  | none => v = t
  | some directory =>
      t.ChangesOnly v (LocatesAny directory done v)
        (LeadsToAny directory files v) ∧
      (∀ l bytes, ¬ LocatesAny directory done v l →
        (v.nodeAt? l = some (.file bytes) ↔
          t.nodeAt? l = some (.file bytes))) ∧
      ∀ before f after, done = before ++ f :: after →
        f.path ∉ after.map (·.path) →
          v.read (resolve directory f.path) = .ok f.bytes

theorem Repository.Uploads.leaves
    {repository : Repository σ}
    {place : Option String}
    {files done : List UploadFile}
    {w v : World σ}
    {result : Except Fault (List String)}
    (hActs : repository.ActsAt place)
    (hNames :
      ∀ f ∈ files, ∀ segment ∈ Text.pieces '/' f.path,
        Path.IsName segment)
    (hUploads : repository.Uploads files done w result v) :
    Leaves files done w.tree v.tree place := by
  cases place with
  | none => exact hUploads.leavesTree hActs
  | some directory =>
      have hChanges := hUploads.changesOnly hActs
      refine ⟨hChanges, fun l bytes hOther =>
        hChanges.file_iff hOther bytes, ?_⟩
      intro before f after hDone hLater
      apply hUploads.read_back hActs hDone
      intro g hAfter
      have hPlanned := hUploads.prefix.subset
      rw [hDone] at hPlanned
      have hFile := hPlanned (List.mem_append_right before
        List.mem_cons_self)
      have hOther := hPlanned (List.mem_append_right before
        (List.mem_cons_of_mem f hAfter))
      apply apart_resolve (hNames f hFile) (hNames g hOther)
      intro hEq
      exact hLater (List.mem_map.mpr ⟨g, hAfter, hEq.symm⟩)

------------------------------------------------------------
-- Releases
------------------------------------------------------------

namespace Config

variable {c : Config} {root : String}
variable {asked package : Option String} {env : Environment}
variable {timeout : Option Nat} {h : Host σ} {b : Backend σ}

/- The pipeline that a configuration comes to. -/
def pipeline
    (c : Config)
    (root : String)
    (asked package : Option String)
    (env : Environment)
    (timeout : Option Nat)
    (h : Host σ)
    (b : Backend σ) : Except Fault (Pipeline σ) := do
  let plan ← c.resolve root asked package env
  let plan ← Program.withTimeout plan timeout
  Pipeline.ofPlan plan h b

/-
  A release of a configuration with any collaborators: without
  a pipeline nothing is done.
-/
def launch
    (c : Config)
    (root : String)
    (asked package : Option String)
    (env : Environment)
    (timeout : Option Nat)
    (h : Host σ)
    (b : Backend σ)
    (w : World σ) : Except Fault Receipt × World σ :=
  match c.pipeline root asked package env timeout h b with
  | .error f => (.error f, w)
  | .ok p => ((p.run w).1, (p.run w).2.2)

/- The command releases with the collaborators of the workspace. -/
theorem release_eq_launch
    (c : Config)
    (root : String)
    (asked : Option String)
    (env : Environment)
    (timeout : Option Nat)
    (h : Host σ)
    (workspace : Workspace)
    (json : Bool)
    (w : World σ) :
    let project : Project :=
      { root, config := some c, workspace := some workspace }
    let ended := Program.release h project env asked timeout json w
    let launched :=
      c.launch root asked workspace.packageVersion? env timeout h
        (.ofWorkspace h workspace) w
    ended.2 = launched.2 ∧
      ∀ f, launched.1 = .error f → ended.1.ending = .failed f := by
  intro project ended launched
  have hPlan :
      project.plan asked env =
        c.resolve root asked workspace.packageVersion? env := rfl
  have hFails (f : Fault) :
      (Outcome.fails f, w).2 = w ∧
        ∀ g, (.error f : Except Fault Receipt) = .error g →
          (Outcome.fails f).ending = .failed g := by
    refine ⟨rfl, ?_⟩
    rintro g ⟨⟩
    rfl
  unfold ended launched Program.release Program.planRelease launch
    pipeline
  rw [hPlan]
  cases c.resolve root asked workspace.packageVersion? env with
  | error f => exact hFails f
  | ok plan =>
      dsimp only [bind, Except.bind]
      cases Program.withTimeout plan timeout with
      | error f => exact hFails f
      | ok timed =>
          dsimp only [Project.requireWorkspace, pure, Except.pure,
            project]
          cases Pipeline.ofPlan timed h (.ofWorkspace h workspace) with
          | error f => exact hFails f
          | ok p =>
              dsimp only
              unfold Program.runPipeline
              rcases p.run w with ⟨result, p', v⟩
              refine ⟨rfl, ?_⟩
              rintro f ⟨⟩
              cases json <;> rfl

/- A pipeline that is made has not run, and is that of a plan. -/
theorem pipeline_eq_ok
    {p : Pipeline σ}
    (hPipeline :
      c.pipeline root asked package env timeout h b = .ok p) :
    p.backend = b ∧ p.progress = .start ∧
      p.plan.metadata = c.metadata p.plan.version ∧
      p.plan.artifacts = c.artifacts ∧
      p.plan.metadata.validate = .ok () := by
  rcases Except.bind_eq_ok hPipeline with ⟨plan, hResolve, hRest⟩
  rcases Except.bind_eq_ok hRest with ⟨timed, hTimed, hPlan⟩
  have hValid := Pipeline.validate_of_ofPlan hPlan
  rcases Pipeline.ofPlan_fields hPlan with ⟨rfl, -, rfl, hProgress⟩
  rcases Program.withTimeout_eq_ok hTimed with ⟨seconds, hEq⟩
  rcases resolve_eq_ok_iff.mp hResolve with ⟨version, rules, -, -, rfl⟩
  rw [hEq] at hValid ⊢
  exact ⟨rfl, hProgress, rfl, rfl, hValid⟩

/- What has no pipeline has not failed in an upload. -/
theorem ordinary_pipeline :
    Except.FailsOnly (c.pipeline root asked package env timeout h b)
      Fault.Ordinary := by
  apply (c.ordinary_resolve root asked package env).bind
  intro plan
  apply Except.FailsOnly.bind
  · unfold Program.withTimeout
    split
    · exact Except.failsOnly_ok _ _
    · exact Except.failsOnly_error rfl
    · exact Except.failsOnly_ok _ _
  · intro timed
    exact Pipeline.ordinary_ofPlan timed h b

/-
  A release without build commands, with collaborators that
  leave the tree as it is.  If it fails, and not in an upload,
  the tree is what it was.  In every case either the tree is
  what it was and the release has failed before the upload, or
  the files of the release were given to a repository in their
  order, up to the first one that it did not take, which is
  the one that the failure names.  Of a remote repository the
  tree shows nothing.  In a local one the files that were
  taken are there, unless one with the same path was taken
  later; no other file is changed, made or removed, and
  directories are made only on the way to files of the
  release.  The command of the program is such a release.
-/
theorem failed_releases_leave_project
    {text : String}
    (hParse : parse text = .ok c)
    (hBuild : ∀ kind, (c.artifacts.member kind).build = [])
    (hLeaves : b.LeavesTree)
    {w v : World σ}
    {result : Except Fault Receipt}
    (hRun :
      c.launch root asked package env timeout h b w = (result, v)) :
    (∀ f, result = .error f → ¬ f.IsUpload → v.tree = w.tree) ∧
    ((v.tree = w.tree ∧
        ∃ f, result = .error f ∧ b.FailsBefore f) ∨
      ∃ p r target repository done u,
        c.pipeline root asked package env timeout h b = .ok p ∧
        r.metadata = c.metadata p.plan.version ∧
        p.plan.router.route p.plan.version = .ok target ∧
        (∃ u', b.repository target p.plan.timeout u' =
          (.ok repository, u)) ∧
        u.tree = w.tree ∧
        repository.Uploads (Pipeline.filesOf r) done u
          (result.map (·.uploaded)) v ∧
        Repository.Leaves (Pipeline.filesOf r) done w.tree v.tree
          (Repository.localPath? target.url)) ∧
    ∀ workspace json,
      package = Workspace.packageVersion? workspace →
      b = .ofWorkspace h workspace →
        let project : Project :=
          { root, config := some c, workspace := some workspace }
        let ended := Program.release h project env asked timeout json w
        ended.2 = v ∧
          ∀ f, result = .error f → ended.1.ending = .failed f := by
  have hCommand :
      ∀ workspace json,
        package = Workspace.packageVersion? workspace →
        b = .ofWorkspace h workspace →
          let project : Project :=
            { root, config := some c, workspace := some workspace }
          let ended :=
            Program.release h project env asked timeout json w
          ended.2 = v ∧
            ∀ f, result = .error f → ended.1.ending = .failed f := by
    rintro workspace json rfl rfl
    have hSame :=
      release_eq_launch c root asked env timeout h workspace json w
    rw [hRun] at hSame
    exact hSame
  unfold launch at hRun
  cases hPipeline :
      c.pipeline root asked package env timeout h b with
  | error f =>
      rw [hPipeline] at hRun
      cases hRun
      have hBefore : b.FailsBefore f :=
        .inr (ordinary_pipeline f hPipeline).not_isUpload
      exact ⟨fun _ _ _ => rfl, .inl ⟨rfl, f, rfl, hBefore⟩, hCommand⟩
  | ok p =>
      rw [hPipeline] at hRun
      cases hRun
      rcases pipeline_eq_ok hPipeline with
        ⟨rfl, hProgress, hMetadata, hArtifacts, hValid⟩
      have hInit := Pipeline.init_of_start hProgress
      rw [hMetadata] at hValid
      have hConfined := confined hParse hValid
      rw [← hArtifacts] at hBuild
      have hCases := Pipeline.untouched_run hLeaves hBuild hInit w
      refine ⟨?_, ?_, hCommand⟩
      · intro f hFailed hUpload
        rcases hCases with hBefore | hPublishes
        · exact hBefore.1
        · rcases hPublishes with
            ⟨r, target, repository, done, u, -, -, -, -, hUploads⟩
          rw [hFailed] at hUploads
          rcases hUploads.of_error with
            ⟨g, rest, cause, u', -, -, -, rfl⟩
          exact absurd ⟨_, _, _, rfl⟩ hUpload
      · refine hCases.imp_right ?_
        rintro ⟨r, target, repository, done, u, hRelease, hRoute,
          ⟨u', hOpen⟩, hTree, hUploads⟩
        have hStep := hLeaves.repository target p.plan.timeout u'
        rw [hOpen] at hStep
        have hNames :
            ∀ f ∈ Pipeline.filesOf r,
              ∀ segment ∈ Text.pieces '/' f.path,
                Path.IsName segment := by
          intro f hFile
          unfold Pipeline.filesOf at hFile
          rw [hRelease, hMetadata] at hFile
          exact hConfined.isName_of_holds
            (Layout.holds_of_mem_uploadPlan hFile)
        have hLocal := hUploads.leaves (hStep.2 _ rfl) hNames
        rw [hTree] at hLocal
        exact ⟨p, r, target, repository, done, u, rfl,
          hRelease.trans hMetadata, hRoute, ⟨u', hOpen⟩, hTree,
          hUploads, hLocal⟩

end Config

namespace Sample

/- The workspace of the sample project, with its programs. -/
def workspaceBackend : Backend Unit :=
  .ofWorkspace host
    { directory := "/p", packages := [], members := []
      root := .absent }

theorem leavesTree_workspaceBackend : workspaceBackend.LeavesTree :=
  Backend.leavesTree_ofWorkspace ⟨fun _ _ => rfl, fun _ _ => rfl⟩ _

/-
  The files of the release, and a directory where the sources
  should be stored in the repository.
-/
def blockedWorld : World Unit where
  tree :=
    { jsonWorld.tree with
      entries :=
        jsonWorld.tree.entries ++
          [(["r"], .directory), (["r", "g"], .directory),
            (["r", "g", "a"], .directory),
            (["r", "g", "a", "1"], .directory),
            (["r", "g", "a", "1", "a-1-sources.bin"], .directory)] }
  outside := ()

/- The member and the location of an upload that has failed. -/
def failedUpload? : Except Fault Receipt → Option (String × String)
  | .error (.release (.upload member location _)) =>
      some (member, location)
  | _ => none

theorem failedUpload?_eq_some
    {result : Except Fault Receipt}
    {member location : String}
    (hFailed : failedUpload? result = some (member, location)) :
    ∃ reason,
      result = .error (.release (.upload member location reason)) := by
  unfold failedUpload? at hFailed
  split at hFailed
  · cases hFailed
    exact ⟨_, rfl⟩
  · cases hFailed

/- The upload fails at the sources, which are the fourth file. -/
theorem launch_blockedWorld :
    ∃ reason v,
      config.launch "/p" none none environment none host
          workspaceBackend blockedWorld =
        (.error
          (.release
            (.upload "sources" "/r/g/a/1/a-1-sources.bin" reason)),
          v) := by
  have hShown :
      failedUpload?
          (config.launch "/p" none none environment none host
            workspaceBackend blockedWorld).1 =
        some ("sources", "/r/g/a/1/a-1-sources.bin") := by
    decide +kernel
  rcases hRun :
      config.launch "/p" none none environment none host
        workspaceBackend blockedWorld with
    ⟨result, v⟩
  rw [hRun] at hShown
  rcases failedUpload?_eq_some hShown with ⟨reason, rfl⟩
  exact ⟨reason, v, rfl⟩

/- Whatever pipeline the configuration comes to, it is local. -/
theorem localPath?_of_pipeline
    {p : Pipeline Unit}
    (hPipeline :
      config.pipeline "/p" none none environment none host
        workspaceBackend = .ok p)
    {target : PublishTarget}
    (hRoute : p.plan.router.route p.plan.version = .ok target) :
    Repository.localPath? target.url = some "/r" := by
  unfold Config.pipeline at hPipeline
  rw [resolve_config] at hPipeline
  cases hPipeline
  cases hRoute
  decide

end Sample

namespace Config

/-
  The sample fails at the sources.  The files in front of them
  are the only ones that have changed.
-/
theorem sample_failed_releases_leave_project :
    parse Sample.document = .ok Sample.config ∧
      (∀ kind, (Sample.config.artifacts.member kind).build = []) ∧
      Sample.workspaceBackend.LeavesTree ∧
      ∃ reason v r done f rest,
        Sample.config.launch "/p" none none Sample.environment none
            Sample.host Sample.workspaceBackend Sample.blockedWorld =
          (.error
            (.release
              (.upload "sources" "/r/g/a/1/a-1-sources.bin" reason)),
            v) ∧
        Pipeline.filesOf r = done ++ f :: rest ∧
        f.member = "sources" ∧
        Sample.blockedWorld.tree.ChangesOnly v.tree
          (Repository.LocatesAny "/r" done v.tree)
          (Repository.LeadsToAny "/r" (Pipeline.filesOf r) v.tree) := by
  have hBuild :
      ∀ kind, (Sample.config.artifacts.member kind).build = [] := by
    intro kind
    cases kind <;> rfl
  refine ⟨Sample.parse_document, hBuild,
    Sample.leavesTree_workspaceBackend, ?_⟩
  rcases Sample.launch_blockedWorld with ⟨reason, v, hRun⟩
  rcases failed_releases_leave_project Sample.parse_document hBuild
      Sample.leavesTree_workspaceBackend hRun with
    ⟨-, hCases, -⟩
  rcases hCases with
    ⟨-, f, hFailed, hBefore⟩ |
      ⟨p, r, target, repository, done, u, hPipeline, -, hRoute, -, -,
        hUploads, hLocal⟩
  · cases hFailed
    exact absurd ⟨_, _, _, rfl⟩
      (Backend.not_isUpload_of_ofWorkspace hBefore)
  · rw [Sample.localPath?_of_pipeline hPipeline hRoute] at hLocal
    rcases hUploads.of_error with
      ⟨f, rest, cause, u', hFiles, -, -, hFault⟩
    have hMember : f.member = "sources" := by
      simp only [uploadFault, Fault.release.injEq,
        ReleaseFault.upload.injEq] at hFault
      exact hFault.1.symm
    exact ⟨reason, v, r, done, f, rest, hRun, hFiles, hMember,
      hLocal.1⟩

end Config

end ReleasePipeline
