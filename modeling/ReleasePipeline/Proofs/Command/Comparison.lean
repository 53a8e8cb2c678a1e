import ReleasePipeline.Proofs.Pipeline.Fetching

/-
  This file proves what the comparison of ours with published
  metadata notices.  It notices every field that describes the
  release, and none of those that say which release it is: a
  document about another group, artifact or version that is
  described like ours passes for ours.

  Key definitions include:
    * `ReleaseMetadata.changedFields`
    * `ReleaseMetadata.coordinates`
    * `Project.Finds`

  Main declarations:
    * `ReleaseMetadata.changedFields_eq_nil_iff`
    * `ReleaseMetadata.differingFields_eq_filter`
    * `Project.perform_of_finds`
    * `Project.notices_description_only`
-/

------------------------------------------------------------
-- Fields That Differ
------------------------------------------------------------

namespace ReleasePipeline

namespace ReleaseMetadata

/- The fields of metadata that have changed, in their order. -/
def changedFields
    (ours published : ReleaseMetadata) : List String :=
  [("group", ours.group != published.group),
    ("artifact", ours.artifact != published.artifact),
    ("version", ours.version != published.version),
    ("name", ours.name != published.name),
    ("description", ours.description != published.description),
    ("url", ours.url != published.url),
    ("license", ours.license != published.license),
    ("developers", ours.developers != published.developers),
    ("scm", ours.scm != published.scm)].filterMap fun field =>
      if field.2 then some field.1 else none

/- The fields that say which release the metadata are about. -/
def coordinates : List String :=
  ["group", "artifact", "version"]

variable {ours published : ReleaseMetadata}

/- Metadata in which no field has changed are the same. -/
theorem changedFields_eq_nil_iff :
    changedFields ours published = [] ↔ published = ours := by
  rw [@eq_comm _ published ours]
  rcases ours with ⟨_, _, _, _, _, _, _, _, _⟩
  rcases published with ⟨_, _, _, _, _, _, _, _, _⟩
  simp [changedFields, List.filterMap_eq_nil_iff]

/- A named field is one of those that are looked at. -/
theorem mem_map_fst_of_mem_filterMap
    {fields : List (String × Bool)}
    {field : String}
    (hMem : field ∈ fields.filterMap fun f =>
      if f.2 then some f.1 else none) :
    field ∈ fields.map (·.1) := by
  rcases List.mem_filterMap.mp hMem with ⟨f, hField, hSome⟩
  split at hSome
  · cases hSome
    exact List.mem_map_of_mem hField
  · cases hSome

/- The comparison names all changed fields but the coordinates. -/
theorem differingFields_eq_filter
    (ours published : ReleaseMetadata) :
    Program.differingFields ours published =
      (changedFields ours published).filter (· ∉ coordinates) := by
  let first : List (String × Bool) :=
    [("group", ours.group != published.group),
      ("artifact", ours.artifact != published.artifact),
      ("version", ours.version != published.version)]
  have hChanged :
      changedFields ours published =
        (first.filterMap fun f => if f.2 then some f.1 else none) ++
          Program.differingFields ours published := by
    unfold changedFields Program.differingFields
    rw [← List.filterMap_append]
    rfl
  have hFirst :
      (first.filterMap fun f => if f.2 then some f.1 else none).filter
        (· ∉ coordinates) = [] := by
    apply List.filter_eq_nil_iff.mpr
    intro field hMem
    have hCoordinate : field ∈ coordinates :=
      mem_map_fst_of_mem_filterMap hMem
    simpa using hCoordinate
  have hRest :
      (Program.differingFields ours published).filter
        (· ∉ coordinates) = Program.differingFields ours published := by
    apply List.filter_eq_self.mpr
    intro field hMem
    have hDescribing :
        ∀ name ∈ ["name", "description", "url", "license", "developers",
          "scm"], decide (name ∉ coordinates) = true := by
      decide
    exact hDescribing field (mem_map_fst_of_mem_filterMap hMem)
  rw [hChanged, List.filter_append, hFirst, hRest, List.nil_append]

/- Nothing is noticed if only coordinates have changed. -/
theorem differingFields_eq_nil_iff :
    Program.differingFields ours published = [] ↔
      changedFields ours published ⊆ coordinates := by
  rw [differingFields_eq_filter, List.filter_eq_nil_iff]
  simp [List.subset_def]

end ReleaseMetadata

------------------------------------------------------------
-- Comparing
------------------------------------------------------------

namespace Program

/- The outcome of a comparison with what has been published. -/
def comparison
    (location : String)
    (ours published : ReleaseMetadata)
    (json : Bool) : Outcome :=
  let differences := differingFields ours published
  let shown : Outcome :=
    if json then
      .document published.toDatum
    else
      .printing (publishedLines location published differences)
  if differences = [] then
    shown
  else
    shown.endingWith (.failed (differenceFault differences))

theorem lines_comparison
    (location : String)
    (ours published : ReleaseMetadata)
    (json : Bool) :
    (comparison location ours published json).lines =
      if json then
        [Json.pretty published.toDatum]
      else
        publishedLines location published
          (differingFields ours published) := by
  unfold comparison
  dsimp only
  split <;> cases json <;> rfl

theorem ending_comparison
    (location : String)
    (ours published : ReleaseMetadata)
    (json : Bool) :
    (comparison location ours published json).ending =
      if differingFields ours published = [] then
        .completed
      else
        .failed (differenceFault (differingFields ours published)) := by
  unfold comparison
  dsimp only
  split
  · cases json <;> rfl
  · rfl

theorem exitCode_comparison_eq_zero_iff
    {location : String}
    {ours published : ReleaseMetadata}
    {json : Bool} :
    (comparison location ours published json).exitCode = 0 ↔
      differingFields ours published = [] := by
  unfold Outcome.exitCode
  rw [ending_comparison]
  by_cases hNone : differingFields ours published = []
  · rw [if_pos hNone]
    exact iff_of_true rfl hNone
  · rw [if_neg hNone]
    exact iff_of_false (Fault.exitCode_ne_zero _) hNone

end Program

namespace Project

variable {σ : Type}
variable {p : Project} {env : Environment} {asked : Option String}
variable {t : FileTree} {plan : ReleasePlan} {location : String}
variable {published : ReleaseMetadata}

/-
  The metadata of a version are planned, and others have been
  published where they belong in a local repository.
-/
structure Finds
    (p : Project)
    (env : Environment)
    (asked : Option String)
    (t : FileTree)
    (plan : ReleasePlan)
    (location : String)
    (published : ReleaseMetadata) : Prop where
  planned : p.plan asked env = .ok plan
  located :
    ∃ target directory,
      plan.router.route plan.version = .ok target ∧
        Repository.localPath? target.url = some directory ∧
        location =
          Repository.resolve directory
            (Layout.ofMetadata plan.metadata).metadataPath
  decoded :
    ∃ bytes, t.read location = .ok bytes ∧
      ReleaseMetadata.ofDocument bytes = .ok published

/- Every version goes to a local repository if it goes anywhere. -/
def StaysLocal
    (p : Project)
    (env : Environment)
    (asked : Option String) : Prop :=
  ∀ plan target, p.plan asked env = .ok plan →
    plan.router.route plan.version = .ok target →
      ∃ directory, Repository.localPath? target.url = some directory

/- The metadata in a file, or why there are none. -/
def metadataAt
    (t : FileTree)
    (location : String) : Except Fault ReleaseMetadata :=
  match t.read location with
  | .ok bytes => ReleaseMetadata.ofDocument bytes
  | .error e =>
      .error ((Fault.io e).withContext s!"Failed to read {location}")

theorem metadataAt_eq_ok_iff :
    metadataAt t location = .ok published ↔
      ∃ bytes, t.read location = .ok bytes ∧
        ReleaseMetadata.ofDocument bytes = .ok published := by
  unfold metadataAt
  cases t.read location with
  | error e => simp
  | ok bytes => simp

/- Fetching from a local repository is reading a file. -/
theorem fetchMetadata_of_local
    (h : Host σ)
    {target : PublishTarget}
    {directory : String}
    (hLocal : Repository.localPath? target.url = some directory)
    (seconds : Nat)
    (l : Layout)
    (w : World σ) :
    fetchMetadata (Repository.forTarget h target seconds) l w =
      (metadataAt w.tree (Repository.resolve directory l.metadataPath),
        w) := by
  unfold fetchMetadata metadataAt
  rw [Repository.forTarget_of_local hLocal, Action.bind_apply]
  simp only [Repository.atDirectory, Action.inspect]
  cases w.tree.read (Repository.resolve directory l.metadataPath) with
  | ok bytes => rfl
  | error e => rfl

/- What is read from a local repository is compared. -/
theorem comparePublished_of_local
    (h : Host σ)
    {target : PublishTarget}
    (hRoute : plan.router.route plan.version = .ok target)
    {directory : String}
    (hLocal : Repository.localPath? target.url = some directory)
    (hLocation :
      location =
        Repository.resolve directory
          (Layout.ofMetadata plan.metadata).metadataPath)
    (json : Bool)
    (w : World σ) :
    Program.comparePublished h plan json w =
      ((metadataAt w.tree location).map
        (Program.comparison location plan.metadata · json), w) := by
  have hFetch :=
    fetchMetadata_of_local h hLocal plan.timeout
      (Layout.ofMetadata plan.metadata) w
  rw [Repository.forTarget_of_local hLocal, ← hLocation] at hFetch
  unfold Program.comparePublished
  rw [hRoute, Action.bind_apply]
  dsimp only [Except.mapError, Action.ofResult]
  rw [Repository.openTarget_of_local hLocal, pure_bind]
  change
    (fetchMetadata (Repository.atDirectory directory)
        (Layout.ofMetadata plan.metadata) >>= _) w = _
  rw [Action.bind_apply, hFetch]
  cases metadataAt w.tree location with
  | error f => rfl
  | ok published =>
      dsimp only
      rw [Repository.location_atDirectory, ← hLocation]
      rfl

/- A command that has a plan compares it with what is published. -/
theorem perform_of_plan
    (hPlan : p.plan asked env = .ok plan)
    (h : Host σ)
    (json : Bool)
    (w : World σ) :
    Program.perform h p env (.metadata asked true json) w =
      Outcome.ofAction (Program.comparePublished h plan json) w := by
  change
    Outcome.ofAction (Program.describeMetadata h p env asked true json) w = _
  unfold Outcome.ofAction Program.describeMetadata
  rw [Action.bind_apply]
  simp only [Action.ofResult, hPlan, if_true]

theorem perform_of_no_plan
    {f : Fault}
    (hPlan : p.plan asked env = .error f)
    (h : Host σ)
    (json : Bool)
    (w : World σ) :
    Program.perform h p env (.metadata asked true json) w =
      (.fails f, w) := by
  change
    Outcome.ofAction (Program.describeMetadata h p env asked true json) w = _
  unfold Outcome.ofAction Program.describeMetadata
  rw [Action.bind_apply]
  simp only [Action.ofResult, hPlan, Outcome.ofResult]

/- What is found is compared. -/
theorem perform_of_finds
    {w : World σ}
    (hFinds : p.Finds env asked w.tree plan location published)
    (h : Host σ)
    (json : Bool) :
    Program.perform h p env (.metadata asked true json) w =
      (Program.comparison location plan.metadata published json, w) := by
  rcases hFinds.located with ⟨target, directory, hRoute, hLocal, hEq⟩
  have hStored := metadataAt_eq_ok_iff.mpr hFinds.decoded
  rw [perform_of_plan hFinds.planned, Outcome.ofAction,
    comparePublished_of_local h hRoute hLocal hEq json w, hStored]
  rfl

/- Where nothing is found the command fails, and nothing changes. -/
theorem fails_or_finds
    (hStays : p.StaysLocal env asked)
    (h : Host σ)
    (json : Bool)
    (w : World σ) :
    (∃ f, Program.perform h p env (.metadata asked true json) w =
      (.fails f, w)) ∨
    ∃ plan location published,
      p.Finds env asked w.tree plan location published := by
  cases hPlan : p.plan asked env with
  | error f =>
      left
      exact ⟨f, perform_of_no_plan hPlan h json w⟩
  | ok plan =>
      rw [perform_of_plan hPlan, Outcome.ofAction]
      cases hRoute : plan.router.route plan.version with
      | error cause =>
          left
          refine ⟨.release cause, ?_⟩
          unfold Program.comparePublished
          rw [hRoute]
          rfl
      | ok target =>
          rcases hStays plan target hPlan hRoute with
            ⟨directory, hLocal⟩
          rw [comparePublished_of_local h hRoute hLocal rfl json w]
          cases hStored : metadataAt w.tree
              (Repository.resolve directory
                (Layout.ofMetadata plan.metadata).metadataPath) with
          | error f =>
              left
              exact ⟨f, rfl⟩
          | ok published =>
              right
              exact ⟨plan, _, published, hPlan,
                ⟨target, directory, hRoute, hLocal, rfl⟩,
                metadataAt_eq_ok_iff.mp hStored⟩

/-
  The comparison with a local repository changes nothing.  It
  succeeds if and only if metadata are found in which no field
  but a coordinate has changed, and otherwise it names those
  fields.  So a changed document passes for ours if and only
  if only coordinates have changed in it.
-/
theorem notices_description_only
    (hStays : p.StaysLocal env asked)
    (h : Host σ)
    (json : Bool)
    (w : World σ) :
    let ended := Program.perform h p env (.metadata asked true json) w
    ended.2 = w ∧
    (ended.1.exitCode = 0 ↔
      ∃ plan location published,
        p.Finds env asked w.tree plan location published ∧
          ReleaseMetadata.changedFields plan.metadata published ⊆
            ReleaseMetadata.coordinates) ∧
    ∀ plan location published,
      p.Finds env asked w.tree plan location published →
        let changed :=
          ReleaseMetadata.changedFields plan.metadata published
        let noticed :=
          changed.filter (· ∉ ReleaseMetadata.coordinates)
        (changed = [] ↔ published = plan.metadata) ∧
        (ended.1.ending =
          if noticed = [] then
            .completed
          else
            .failed (Program.differenceFault noticed)) ∧
        (ended.1.lines =
          if json then
            [Json.pretty published.toDatum]
          else
            Program.publishedLines location published noticed) ∧
        (ended.1.exitCode = 0 ∧ published ≠ plan.metadata ↔
          changed ≠ [] ∧ changed ⊆ ReleaseMetadata.coordinates) := by
  intro ended
  have hCompared {plan : ReleasePlan} {location : String}
      {published : ReleaseMetadata}
      (hFinds : p.Finds env asked w.tree plan location published) :
      ended =
        (Program.comparison location plan.metadata published json, w) :=
    perform_of_finds hFinds h json
  have hZero {plan : ReleasePlan} {location : String}
      {published : ReleaseMetadata}
      (hFinds : p.Finds env asked w.tree plan location published) :
      ended.1.exitCode = 0 ↔
        ReleaseMetadata.changedFields plan.metadata published ⊆
          ReleaseMetadata.coordinates := by
    rw [hCompared hFinds, ← ReleaseMetadata.differingFields_eq_nil_iff]
    exact Program.exitCode_comparison_eq_zero_iff
  refine ⟨?_, ⟨fun hDone => ?_, ?_⟩, ?_⟩
  · rcases fails_or_finds hStays h json w with
      ⟨f, hFails⟩ | ⟨plan, location, published, hFinds⟩
    · exact congrArg Prod.snd hFails
    · rw [hCompared hFinds]
  · rcases fails_or_finds hStays h json w with
      ⟨f, hFails⟩ | ⟨plan, location, published, hFinds⟩
    · have hFailed : ended.1 = .fails f := congrArg Prod.fst hFails
      rw [hFailed] at hDone
      exact absurd hDone (Outcome.fails_exitCode_ne_zero f)
    · exact ⟨plan, location, published, hFinds, (hZero hFinds).mp hDone⟩
  · rintro ⟨plan, location, published, hFinds, hSubset⟩
    exact (hZero hFinds).mpr hSubset
  · intro plan location published hFinds changed noticed
    have hNoticed :
        Program.differingFields plan.metadata published = noticed :=
      ReleaseMetadata.differingFields_eq_filter plan.metadata published
    have hSame : changed = [] ↔ published = plan.metadata :=
      ReleaseMetadata.changedFields_eq_nil_iff
    refine ⟨hSame, ?_, ?_, ?_⟩
    · rw [hCompared hFinds, Program.ending_comparison, hNoticed]
    · rw [hCompared hFinds, Program.lines_comparison, hNoticed]
    · rw [hZero hFinds, ne_eq, ← hSame, and_comm]

end Project

namespace Sample

/- The metadata of the sample, but of another version. -/
def foreignMetadata : ReleaseMetadata :=
  { metadata with version := "9" }

/- A tree with a file where the sample's metadata belong. -/
def publishedTree (bytes : Bytes) : FileTree where
  entries :=
    [(["r"], .directory), (["r", "g"], .directory),
      (["r", "g", "a"], .directory), (["r", "g", "a", "1"], .directory),
      (["r", "g", "a", "1", "a-1.json"], .file bytes)]
  workingDirectory := []

theorem read_publishedTree (bytes : Bytes) :
    (publishedTree bytes).read "/r/g/a/1/a-1.json" = .ok bytes := rfl

/- The other metadata are stored there. -/
def foreignWorld : World Unit where
  tree := publishedTree foreignMetadata.document
  outside := ()

theorem finds_foreignMetadata :
    project.Finds environment none foreignWorld.tree jsonPlan
      "/r/g/a/1/a-1.json" foreignMetadata where
  planned := plan_project
  located := by
    refine ⟨_, "/r", rfl, by decide, ?_⟩
    decide +kernel
  decoded :=
    ⟨foreignMetadata.document, read_publishedTree _,
      ReleaseMetadata.ofDocument_document foreignMetadata⟩

theorem staysLocal_project : project.StaysLocal environment none := by
  intro plan target hPlan hRoute
  rw [plan_project] at hPlan
  cases hPlan
  cases hRoute
  exact ⟨"/r", by decide⟩

end Sample

/- Metadata of another version pass for those of the sample. -/
theorem Project.sample_notices_description_only :
    Sample.project.StaysLocal Sample.environment none ∧
      (Program.perform Sample.host Sample.project Sample.environment
        (.metadata none true false) Sample.foreignWorld).1.exitCode = 0 ∧
      Sample.foreignMetadata ≠ Sample.jsonPlan.metadata := by
  have hFound :=
    (notices_description_only Sample.staysLocal_project Sample.host false
      Sample.foreignWorld).2.2
  have hPasses := (hFound _ _ _ Sample.finds_foreignMetadata).2.2.2
  refine ⟨Sample.staysLocal_project, ?_⟩
  rw [hPasses]
  decide

end ReleasePipeline
