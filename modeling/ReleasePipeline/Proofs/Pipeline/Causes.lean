import ReleasePipeline.Pipeline.Run
import ReleasePipeline.Proofs.Host.Actions

/-
  This file proves why a release fails.  It has to get over
  some hurdles, one after another, and every terminal failure
  belongs to one of them.  What goes wrong while a snapshot,
  the graph or the sources are read, or while a repository is
  opened, is no terminal failure.

  Key definitions include:
    * `Hurdle`, `ReleaseFault.hurdle`
    * `Fault.Ordinary`, `Fault.EndsAt`
    * `Except.FailsOnly`, `Action.FailsOnly`

  Main declarations:
    * `LockSnapshot.ordinary_load`
    * `Workspace.ordinary_resolvedGraph`
    * `Gate.ordinary_report`
    * `Repository.ordinary_openTarget`
    * `Config.ordinary_resolve`
    * `Pipeline.failsOnly_checkLock`
    * `Pipeline.failsOnly_assemble`
    * `Pipeline.failsOnly_passGate`
    * `Pipeline.failsOnly_sign`
    * `failsOnly_uploadAll`
-/

------------------------------------------------------------
-- Kinds of Failures
------------------------------------------------------------

namespace ReleasePipeline

/- What a release has to get over; each of them may end it. -/
inductive Hurdle where
  | lock
  | artifacts
  | gate
  | credential
  | signing
  | routing
  | upload
deriving DecidableEq, Repr

/- The hurdle at which a terminal failure comes about. -/
def ReleaseFault.hurdle : ReleaseFault → Hurdle
  | .lockMismatch _ => .lock
  | .artifactMissing _ _ => .artifacts
  | .qualityGate _ => .gate
  | .noSigningCredential _ => .credential
  | .signing _ _ => .signing
  | .missingCredentials _ _ => .routing
  | .upload _ _ _ => .upload

/- A failure that is none of the terminal failures of a release. -/
def Fault.Ordinary (f : Fault) : Prop :=
  f.release? = none

/- A terminal failure that comes about at a hurdle. -/
def Fault.EndsAt
    (d : Hurdle)
    (f : Fault) : Prop :=
  ∃ cause, f = .release cause ∧ cause.hurdle = d

theorem ReleaseFault.endsAt_hurdle (cause : ReleaseFault) :
    Fault.EndsAt cause.hurdle (.release cause) :=
  ⟨cause, rfl, rfl⟩

/- A result that fails only in some ways, if it fails. -/
def Except.FailsOnly
    {α : Type}
    (r : Except Fault α)
    (kinds : Fault → Prop) : Prop :=
  ∀ f, r = .error f → kinds f

namespace Except

variable {α β : Type} {kinds : Fault → Prop}

theorem failsOnly_ok
    (x : α)
    (kinds : Fault → Prop) :
    FailsOnly (.ok x) kinds :=
  nofun

theorem failsOnly_error
    {f : Fault}
    (hKind : kinds f) :
    FailsOnly (.error f : Except Fault α) kinds := by
  intro g hEq
  cases hEq
  exact hKind

theorem FailsOnly.bind
    {r : Except Fault α}
    {k : α → Except Fault β}
    (hFirst : FailsOnly r kinds)
    (hSecond : ∀ x, FailsOnly (k x) kinds) :
    FailsOnly (r >>= k) kinds := by
  cases r with
  | error f => exact failsOnly_error (hFirst f rfl)
  | ok x => exact hSecond x

theorem FailsOnly.mapM
    {k : α → Except Fault β}
    (hEach : ∀ x, FailsOnly (k x) kinds)
    (xs : List α) :
    FailsOnly (xs.mapM k) kinds := by
  induction xs with
  | nil => exact failsOnly_ok [] kinds
  | cons x xs ih =>
      rw [List.mapM_cons]
      apply FailsOnly.bind (hEach x)
      intro y
      apply FailsOnly.bind ih
      intro ys
      exact failsOnly_ok _ kinds

/- A context does not make a failure a terminal one. -/
theorem FailsOnly.withContext
    {r : Except Fault α}
    (hOrdinary : FailsOnly r Fault.Ordinary)
    (context : String) :
    FailsOnly (withContext context r) Fault.Ordinary := by
  cases r with
  | ok x => exact failsOnly_ok x _
  | error f =>
      apply failsOnly_error
      have hFault := hOrdinary f rfl
      unfold Fault.withContext
      split
      · rfl
      · rfl
      · rfl
      · exact hFault

theorem failsOnly_ioContext
    (context : String)
    (r : Except IoError α) :
    FailsOnly (ioContext context r) Fault.Ordinary := by
  cases r with
  | ok x => exact failsOnly_ok x _
  | error e => exact failsOnly_error rfl

end Except

namespace Action

variable {σ α β ε : Type} {kinds : Fault → Prop}

/- An action that fails only in some ways, in whatever world. -/
def FailsOnly
    (a : Action σ α)
    (kinds : Fault → Prop) : Prop :=
  ∀ w, Except.FailsOnly (a w).1 kinds

theorem FailsOnly.bind
    {a : Action σ α}
    {k : α → Action σ β}
    (hFirst : a.FailsOnly kinds)
    (hSecond : ∀ x, (k x).FailsOnly kinds) :
    FailsOnly (a >>= k) kinds := by
  intro w
  have hStep := hFirst w
  rw [bind_apply]
  rcases hResult : a w with ⟨f | x, v⟩
  · rw [hResult] at hStep
    exact Except.failsOnly_error (hStep f rfl)
  · exact hSecond x v

theorem failsOnly_pure (x : α) :
    FailsOnly (pure x : Action σ α) kinds :=
  fun _ => Except.failsOnly_ok x kinds

theorem failsOnly_inspect
    {look : FileTree → Except Fault α}
    (hLook : ∀ t, Except.FailsOnly (look t) kinds) :
    FailsOnly (inspect look : Action σ α) kinds :=
  fun w => hLook w.tree

theorem failsOnly_throw
    {f : Fault}
    (hKind : kinds f) :
    FailsOnly (throw f : Action σ α) kinds :=
  fun _ => Except.failsOnly_error hKind

/- What cannot be had is explained. -/
theorem failsOnly_ask
    {answer : World σ → Except ε Unit}
    {explain : ε → Fault}
    (hWords : ∀ e, kinds (explain e)) :
    (ask answer explain).FailsOnly kinds := by
  intro w
  unfold ask
  cases answer w with
  | error e => exact Except.failsOnly_error (hWords e)
  | ok found => exact Except.failsOnly_ok found kinds

/- A program that does not get to its end is explained. -/
theorem failsOnly_run
    {h : Host σ}
    {call : Invocation}
    {explain : RunFault → Fault}
    (hWords : ∀ e, kinds (explain e)) :
    (h.run call explain).FailsOnly kinds := by
  intro w
  rw [Host.run_apply]
  cases (h.start call w).1 with
  | error e => exact Except.failsOnly_error (hWords e)
  | ok finished => exact Except.failsOnly_ok finished kinds

/- Failures that are put into words of their own. -/
theorem failsOnly_refine
    {words : Fault → Fault}
    (hWords : ∀ f, kinds (words f))
    (a : Action σ α) :
    (refine words a).FailsOnly kinds := by
  intro w
  rw [refine_apply]
  cases (a w).1 with
  | error f => exact Except.failsOnly_error (hWords f)
  | ok x => exact Except.failsOnly_ok x kinds

end Action

------------------------------------------------------------
-- Reading and Opening
------------------------------------------------------------

/- No snapshot is refused for a terminal failure. -/
theorem LockSnapshot.ordinary_parse (text : String) :
    Except.FailsOnly (parse text) Fault.Ordinary := by
  have hDecoded :
      Except.FailsOnly (Toml.decode fileOfDatum text) Fault.Ordinary := by
    unfold Toml.decode
    split
    · exact Except.failsOnly_ok _ _
    · exact Except.failsOnly_error rfl
  have hEntries (entries : List LockEntry) :
      Except.FailsOnly (Checks.checkAll checkEntry entries)
        Fault.Ordinary := by
    induction entries with
    | nil => exact Except.failsOnly_ok () _
    | cons e entries ih =>
        have hFirst : Except.FailsOnly (checkEntry e) Fault.Ordinary := by
          unfold checkEntry
          apply Except.FailsOnly.withContext
          split
          · exact Except.failsOnly_ok () _
          · exact Except.failsOnly_error rfl
        unfold Checks.checkAll
        split
        · exact ih
        · next f hFailed =>
            exact Except.failsOnly_error (hFirst f hFailed)
  apply hDecoded.bind
  rintro ⟨version, entries⟩
  apply Except.FailsOnly.bind
  · unfold Checks.ensure
    split
    · exact Except.failsOnly_ok () _
    · exact Except.failsOnly_error rfl
  · intro _
    exact (hEntries entries).bind fun _ => Except.failsOnly_ok _ _

theorem LockSnapshot.ordinary_load
    (t : FileTree)
    (path : String) :
    Except.FailsOnly (load t path) Fault.Ordinary := by
  unfold load
  split
  · apply (Except.failsOnly_ioContext _ _).bind
    intro text
    exact (ordinary_parse text).withContext _
  · exact Except.failsOnly_error rfl

theorem Workspace.ordinary_resolvedGraph
    (w : Workspace)
    (t : FileTree) :
    Except.FailsOnly (w.resolvedGraph t) Fault.Ordinary := by
  have hSums : Except.FailsOnly (w.readChecksums t) Fault.Ordinary := by
    unfold readChecksums
    split
    · apply (Except.failsOnly_ioContext _ _).bind
      intro text
      split
      · exact Except.failsOnly_ok _ _
      · apply Except.FailsOnly.withContext
        exact Except.failsOnly_error rfl
    · exact Except.failsOnly_ok _ _
  exact hSums.bind fun _ => Except.failsOnly_ok _ _

/- What prevents a report is no finding. -/
theorem Gate.ordinary_report
    (t : FileTree)
    (s : RuleSettings)
    (root : String) :
    Except.FailsOnly (report t s root) Fault.Ordinary := by
  have hFound (patterns found : List String) :
      Except.FailsOnly (discoverFrom t root patterns found)
        Fault.Ordinary := by
    induction patterns generalizing found with
    | nil => exact Except.failsOnly_ok found _
    | cons pattern patterns ih =>
        unfold discoverFrom
        split
        · exact Except.failsOnly_error rfl
        · exact ih _
  have hRead (path : String) :
      Except.FailsOnly (readSource t root path) Fault.Ordinary := by
    unfold readSource
    have hBytes :=
      Except.failsOnly_ioContext s!"Failed to read {path}" (t.read path)
    split
    · next f hFailed => exact Except.failsOnly_error (hBytes f hFailed)
    · exact Except.failsOnly_ok _ _
  apply (hFound s.sources []).bind
  intro paths
  split
  · exact Except.failsOnly_error rfl
  · exact (Except.FailsOnly.mapM hRead paths).bind
      fun _ => Except.failsOnly_ok _ _

/- A repository that cannot be opened is no upload that failed. -/
theorem Repository.ordinary_openTarget
    {σ : Type}
    (h : Host σ)
    (target : PublishTarget)
    (timeout : Nat) :
    (openTarget h target timeout).FailsOnly Fault.Ordinary := by
  apply Action.FailsOnly.bind
  · unfold prepare
    split
    · exact Action.failsOnly_pure ()
    · exact Action.failsOnly_ask fun reason => rfl
  · exact fun _ => Action.failsOnly_pure _

------------------------------------------------------------
-- Planning
------------------------------------------------------------

theorem QualityConfig.ordinary_compile (c : QualityConfig) :
    Except.FailsOnly c.compile Fault.Ordinary := by
  have hForbidden (text : String) :
      Except.FailsOnly (readForbidden text) Fault.Ordinary := by
    unfold readForbidden
    split
    · exact Except.failsOnly_ok _ _
    · exact Except.failsOnly_error rfl
  have hGlob (text : String) :
      Except.FailsOnly (readGlob text) Fault.Ordinary := by
    unfold readGlob
    split
    · exact Except.failsOnly_ok _ _
    · exact Except.failsOnly_error rfl
  have hSuppression (s : Suppression) :
      Except.FailsOnly (readSuppression s) Fault.Ordinary := by
    unfold readSuppression
    split
    · exact Except.failsOnly_ok _ _
    · next f hFailed =>
        exact Except.failsOnly_error (hGlob s.files f hFailed)
  apply (Except.FailsOnly.mapM hForbidden _).bind
  intro forbidden
  apply (Except.FailsOnly.mapM hSuppression _).bind
  intro suppressions
  exact Except.failsOnly_ok _ _

/- What has no plan has not failed as a release. -/
theorem Config.ordinary_resolve
    (c : Config)
    (root : String)
    (asked package : Option String)
    (env : Environment) :
    Except.FailsOnly (c.resolve root asked package env)
      Fault.Ordinary := by
  have hVersion (text : String) :
      Except.FailsOnly (Version.ofText text) Fault.Ordinary := by
    unfold Version.ofText
    split
    · exact Except.failsOnly_ok _ _
    · exact Except.failsOnly_error rfl
  unfold resolve
  split
  · apply (hVersion _).bind
    intro version
    exact c.quality.ordinary_compile.bind
      fun _ => Except.failsOnly_ok _ _
  · exact Except.failsOnly_error rfl

theorem Pipeline.ordinary_ofPlan
    {σ : Type}
    (plan : ReleasePlan)
    (h : Host σ)
    (b : Backend σ) :
    Except.FailsOnly (ofPlan plan h b) Fault.Ordinary := by
  have hValid :
      Except.FailsOnly plan.metadata.validate Fault.Ordinary := by
    unfold ReleaseMetadata.validate
    split
    · exact Except.failsOnly_ok _ _
    · exact Except.failsOnly_error rfl
  exact hValid.bind fun _ => Except.failsOnly_ok _ _

------------------------------------------------------------
-- Terminal Failures
------------------------------------------------------------

/- A snapshot is refused for its divergences alone. -/
theorem LockSnapshot.failsOnly_verify
    (s : LockSnapshot)
    (g : ResolvedGraph) :
    Except.FailsOnly ((s.verify g).mapError .release)
      (Fault.EndsAt .lock) := by
  unfold verify
  split
  · exact Except.failsOnly_ok () _
  · exact Except.failsOnly_error (ReleaseFault.endsAt_hurdle _)

/- A gate that is not passed has found something, or not looked. -/
theorem Gate.failsOnly_evaluate
    (t : FileTree)
    (s : RuleSettings)
    (root : String) :
    Except.FailsOnly (evaluate t s root) fun f =>
      f.Ordinary ∨ f.EndsAt .gate := by
  apply Except.FailsOnly.bind
  · exact fun f hFailed => .inl (ordinary_report t s root f hFailed)
  · intro r
    split
    · exact Except.failsOnly_ok r _
    · exact Except.failsOnly_error
        (.inr (ReleaseFault.endsAt_hurdle _))

theorem SigningSources.failsOnly_select (s : SigningSources) :
    Except.FailsOnly (s.select.mapError .release)
      (Fault.EndsAt .credential) := by
  intro f hFailed
  unfold select at hFailed
  split at hFailed <;> cases hFailed
  exact ReleaseFault.endsAt_hurdle _

theorem ChannelRouter.failsOnly_route
    (r : ChannelRouter)
    (v : Version) :
    Except.FailsOnly ((r.route v).mapError .release)
      (Fault.EndsAt .routing) := by
  intro f hFailed
  unfold route at hFailed
  dsimp only at hFailed
  split at hFailed <;> cases hFailed
  exact ReleaseFault.endsAt_hurdle _

namespace Assembly

variable {σ : Type}

theorem endsAt_missing
    (kind : ArtifactKind)
    (reason : String) :
    (missing kind reason).EndsAt .artifacts :=
  ReleaseFault.endsAt_hurdle _

/- A build that fails leaves an output missing. -/
theorem failsOnly_buildAll
    (h : Host σ)
    (root : String)
    (c : ArtifactsConfig)
    (schedule : List ArtifactKind) :
    (buildAll h root c schedule).FailsOnly
      (Fault.EndsAt .artifacts) := by
  have hBuild (kind : ArtifactKind) :
      (build h root kind (c.member kind).build).FailsOnly
        (Fault.EndsAt .artifacts) := by
    unfold build
    split
    · exact Action.failsOnly_pure ()
    · refine Action.FailsOnly.bind
        (Action.failsOnly_run fun e => endsAt_missing kind _) ?_
      intro finished
      split
      · exact Action.failsOnly_pure ()
      · exact Action.failsOnly_throw (endsAt_missing kind _)
  induction schedule with
  | nil => exact Action.failsOnly_pure ()
  | cons kind kinds ih =>
      intro w
      have hFirst := hBuild kind w
      unfold buildAll
      rcases hResult :
          build h root kind (c.member kind).build w with
        ⟨f | ⟨⟩, v⟩
      · rw [hResult] at hFirst
        exact hFirst
      · exact ih v

/- Outputs that cannot be read are missing. -/
theorem failsOnly_collect
    (root artifact : String)
    (c : ArtifactsConfig)
    (version : Version)
    (t : FileTree) :
    Except.FailsOnly (collect root c artifact version t)
      (Fault.EndsAt .artifacts) := by
  have hOutput (kind : ArtifactKind) (path : String) :
      Except.FailsOnly (readOutput t kind path)
        (Fault.EndsAt .artifacts) := by
    unfold readOutput
    split
    · exact Except.failsOnly_ok _ _
    · exact Except.failsOnly_error (endsAt_missing kind _)
  apply Except.FailsOnly.bind (hOutput _ _)
  intro binary
  apply Except.FailsOnly.bind (hOutput _ _)
  intro sources
  apply Except.FailsOnly.bind (hOutput _ _)
  intro docs
  exact Except.failsOnly_ok _ _

end Assembly

namespace Pipeline

variable {σ : Type}

/- The graph may also fail, in whatever way its backend does. -/
theorem failsOnly_checkLock (p : Pipeline σ) :
    p.checkLock.FailsOnly fun f =>
      (∃ w, (p.backend.resolvedGraph w).1 = .error f) ∨
        f.Ordinary ∨ f.EndsAt .lock := by
  refine Action.FailsOnly.bind (Action.failsOnly_inspect ?_) ?_
  · intro t f hFailed
    exact .inr (.inl (LockSnapshot.ordinary_load t _ f hFailed))
  intro snapshot
  refine Action.FailsOnly.bind
    (fun w f hFailed => .inl ⟨w, hFailed⟩) ?_
  intro graph w f hFailed
  exact .inr (.inr (snapshot.failsOnly_verify graph f hFailed))

theorem failsOnly_assemble (p : Pipeline σ) :
    p.assemble.FailsOnly (Fault.EndsAt .artifacts) := by
  refine Action.FailsOnly.bind (Assembly.failsOnly_buildAll _ _ _ _) ?_
  intro _
  exact Action.failsOnly_inspect fun t =>
    Assembly.failsOnly_collect _ _ _ _ t

theorem failsOnly_passGate (p : Pipeline σ) :
    p.passGate.FailsOnly fun f => f.Ordinary ∨ f.EndsAt .gate :=
  Action.failsOnly_inspect fun t => Gate.failsOnly_evaluate t _ _

theorem failsOnly_credential (p : Pipeline σ) :
    p.credential.FailsOnly (Fault.EndsAt .credential) :=
  fun _ => p.plan.signing.failsOnly_select

/- Whatever goes wrong with the signer is a failure to sign. -/
theorem failsOnly_sign
    (p : Pipeline σ)
    (c : Credential)
    (artifacts : ArtifactSet) :
    (p.sign c artifacts).FailsOnly (Fault.EndsAt .signing) := by
  have hWords (member : String) (f : Fault) :
      (signingFault member f).EndsAt .signing :=
    ReleaseFault.endsAt_hurdle _
  refine Action.FailsOnly.bind
    (Action.failsOnly_refine (hWords "signing key") _) ?_
  intro s
  have hSigned (member : String) (data : Bytes) :
      (signMember s member data).FailsOnly (Fault.EndsAt .signing) :=
    Action.failsOnly_refine (hWords member) _
  apply (hSigned _ _).bind
  intro binary
  apply (hSigned _ _).bind
  intro sources
  apply (hSigned _ _).bind
  intro docs
  apply (hSigned _ _).bind
  intro signature
  exact Action.failsOnly_pure _

end Pipeline

end ReleasePipeline
