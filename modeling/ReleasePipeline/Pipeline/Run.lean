import ReleasePipeline.Config.Resolution
import ReleasePipeline.Lock.Snapshot
import ReleasePipeline.Pipeline.Backend
import ReleasePipeline.Pipeline.Receipt
import ReleasePipeline.Pipeline.Stage
import ReleasePipeline.Quality.Gate
import ReleasePipeline.Release.Assembly

/-
  This file defines the run of a release: the lock is checked,
  the artifacts are built, the quality gate is passed, the
  artifacts are signed, and at last everything is uploaded.
  The first failure ends the run, and a run is made only once.

  Key definitions include:
    * `Pipeline`, `Pipeline.ofPlan`
    * `Pipeline.checkLock`, `Pipeline.sign`, `Pipeline.publish`
    * `Pipeline.execute`
    * `Pipeline.run`
-/

------------------------------------------------------------
-- Pipelines
------------------------------------------------------------

namespace ReleasePipeline

/- A release that is planned, and how far it has come. -/
structure Pipeline (σ : Type) where
  plan : ReleasePlan
  host : Host σ
  backend : Backend σ
  progress : Progress

/- The world and the progress of a run. -/
structure Course (σ : Type) where
  progress : Progress
  world : World σ

/- A step of a run, which may enter stages. -/
abbrev Staged (σ α : Type) : Type :=
  ExceptT Fault (StateM (Course σ)) α

namespace Pipeline

variable {σ α : Type}

/-
  The pipeline of a plan.  Its metadata has to be complete
  before anything is done.
-/
def ofPlan
    (plan : ReleasePlan)
    (host : Host σ)
    (backend : Backend σ) : Except Fault (Pipeline σ) := do
  plan.metadata.validate
  pure { plan, host, backend, progress := .start }

------------------------------------------------------------
-- Steps
------------------------------------------------------------

/- The snapshot has to agree with the current graph. -/
def checkLock (p : Pipeline σ) : Action σ Unit := do
  let snapshot ←
    Action.inspect fun t => LockSnapshot.load t p.plan.lockSnapshot
  let graph ← p.backend.resolvedGraph
  Action.ofResult ((snapshot.verify graph).mapError .release)

/- Build and read the artifacts. -/
def assemble (p : Pipeline σ) : Action σ ArtifactSet :=
  Assembly.assemble p.host ArtifactKind.all p.plan.root
    p.plan.artifacts p.plan.metadata.artifact p.plan.version

/- The sources have to pass the gate. -/
def passGate (p : Pipeline σ) : Action σ QualityReport :=
  Action.inspect fun t => Gate.evaluate t p.plan.quality p.plan.root

/- The credential of the run. -/
def credential (p : Pipeline σ) : Action σ Credential :=
  Action.ofResult (p.plan.signing.select.mapError .release)

/- The failure to sign a member. -/
def signingFault
    (member : String)
    (cause : Fault) : Fault :=
  .release (.signing member cause.message)

/- Sign a member. -/
def signMember
    (s : Signer σ)
    (member : String)
    (data : Bytes) : Action σ Bytes :=
  Action.refine (signingFault member) (s.sign data)

/- Sign the artifacts and the metadata document. -/
def sign
    (p : Pipeline σ)
    (c : Credential)
    (artifacts : ArtifactSet) : Action σ SignedRelease := do
  let s ←
    Action.refine (signingFault "signing key") (p.backend.signer c)
  let signed (a : Artifact) : Action σ Bytes :=
    signMember s a.kind.name a.bytes
  let binarySignature ← signed artifacts.binary
  let sourcesSignature ← signed artifacts.sources
  let docsSignature ← signed artifacts.docs
  let document := p.plan.metadata.document
  let documentSignature ← signMember s metadataMember document
  pure { artifacts, binarySignature, sourcesSignature, docsSignature
         metadata := p.plan.metadata, document, documentSignature }

/-
  Upload a release.  Its target is known before a repository
  is opened.
-/
def publish
    (p : Pipeline σ)
    (r : SignedRelease)
    (mode : SigningMode) : Action σ Receipt := do
  let target ←
    Action.ofResult
      ((p.plan.router.route p.plan.version).mapError .release)
  let repository ← p.backend.repository target p.plan.timeout
  let layout := Layout.ofMetadata r.metadata
  let uploaded ← uploadAll repository (uploadPlan layout r)
  let publishedAt ← fun w => (.ok (p.host.clock w), w)
  pure { group := r.metadata.group
         artifact := r.metadata.artifact
         version := r.metadata.version
         channel := target.channel
         target := target.url
         signing := mode
         artifacts := Receipt.entries layout r.artifacts
         uploaded, publishedAt }

------------------------------------------------------------
-- Runs
------------------------------------------------------------

/- Act on the world of a run. -/
def perform (a : Action σ α) : Staged σ α :=
  fun c =>
    let (result, world) := a c.world
    (result, { c with world })

/- Enter a stage. -/
def enter (s : Stage) : Staged σ Unit :=
  fun c => (.ok (), { c with progress := c.progress.enter s })

/- Go through all stages, up to the first failure. -/
def execute (p : Pipeline σ) : Staged σ Receipt := do
  perform p.checkLock
  enter .lockChecked
  let artifacts ← perform p.assemble
  let _ ← perform p.passGate
  enter .gatePassed
  let c ← perform p.credential
  let signed ← perform (p.sign c artifacts)
  enter .signed
  let receipt ← perform (p.publish signed c.mode)
  enter .published
  pure receipt

/- The name of the kind of a failure that ended a run. -/
def failureKind (f : Fault) : String :=
  match f.release? with
  | some cause => cause.kind
  | none => "Error"

/- Make a run, unless it has been made before. -/
def run
    (p : Pipeline σ)
    (w : World σ) :
    Except Fault Receipt × Pipeline σ × World σ :=
  if p.progress.stage = .init then
    match p.execute { progress := p.progress, world := w } with
    | (.ok receipt, c) =>
        (.ok receipt, { p with progress := c.progress }, c.world)
    | (.error f, c) =>
        (.error f,
          { p with
            progress := c.progress.enter (.failed (failureKind f)) },
          c.world)
  else
    (.error (.plain
      s!"Pipeline already ran (state {p.progress.stage.display})"),
      p, w)

end Pipeline

end ReleasePipeline
