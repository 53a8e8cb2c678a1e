import ReleasePipeline.Pipeline.Run
import ReleasePipeline.Proofs.Host.Actions

/-
  This file proves what each step of a release leaves in the
  record of its calls.  A step follows a script: it makes the
  calls of the script in order, up to the one that fails, and
  all of them if it succeeds.

  Key definitions include:
    * `Action.Follows`
    * `Signer.Answers`

  Main declarations:
    * `Pipeline.checkLock_follows`
    * `Pipeline.assemble_follows`
    * `Pipeline.sign_follows`
    * `Pipeline.publish_follows`
-/

------------------------------------------------------------
-- Scripts
------------------------------------------------------------

namespace ReleasePipeline

namespace Action

variable {σ α β : Type}

/-
  An action adds the first calls of a script and the first
  files of a list to the record.  When it succeeds it has
  added all of them, and its value is as said.
-/
def Follows
    (a : Action (Recorded σ) α)
    (script : List Call)
    (files : List (String × Bytes))
    (value : α → Prop) : Prop :=
  ∀ w r v, a w = (r, v) →
    ∃ made kept,
      v.outside.calls = w.outside.calls ++ made ∧
      v.outside.stored = w.outside.stored ++ kept ∧
      made <+: script ∧ kept <+: files ∧
      ∀ x, r = .ok x → made = script ∧ kept = files ∧ value x

/- An action that leaves the record as it is follows nothing. -/
theorem follows_of_silent
    {a : Action (Recorded σ) α}
    {value : α → Prop}
    (hSilent : ∀ w, (a w).2.outside.calls = w.outside.calls ∧
      (a w).2.outside.stored = w.outside.stored)
    (hValue : ∀ w x v, a w = (.ok x, v) → value x) :
    Follows a [] [] value := by
  intro w r v hRun
  have hRecord := hSilent w
  rw [hRun] at hRecord
  refine ⟨[], [], ?_, ?_, List.nil_prefix, List.nil_prefix, ?_⟩
  · simpa using hRecord.1
  · simpa using hRecord.2
  · intro x hOk
    exact ⟨rfl, rfl, hValue w x v (hOk ▸ hRun)⟩

theorem pure_follows
    {value : α → Prop}
    {x : α}
    (hValue : value x) :
    Follows (pure x : Action (Recorded σ) α) [] [] value := by
  apply follows_of_silent
  · exact fun _ => ⟨rfl, rfl⟩
  · intro w y v hRun
    cases hRun
    exact hValue

/- Scripts are followed one after another. -/
theorem Follows.bind
    {a : Action (Recorded σ) α}
    {k : α → Action (Recorded σ) β}
    {first second : List Call}
    {before after : List (String × Bytes)}
    {between : α → Prop}
    {value : β → Prop}
    (ha : Follows a first before between)
    (hk : ∀ x, between x → Follows (k x) second after value) :
    Follows (a >>= k) (first ++ second) (before ++ after) value := by
  intro w r v hRun
  rw [bind_apply] at hRun
  rcases hStep : a w with ⟨f | x, u⟩
  · rw [hStep] at hRun
    rcases ha w _ u hStep with
      ⟨made, kept, hCalls, hStored, hMade, hKept, -⟩
    cases hRun
    exact ⟨made, kept, hCalls, hStored,
      hMade.trans (List.prefix_append _ _),
      hKept.trans (List.prefix_append _ _), nofun⟩
  · rw [hStep] at hRun
    rcases ha w _ u hStep with ⟨made, kept, hCalls, hStored, -, -, hAll⟩
    rcases hAll x rfl with ⟨hMade, hKept, hBetween⟩
    subst hMade hKept
    rcases hk x hBetween u r v hRun with
      ⟨made', kept', hCalls', hStored', hMade', hKept', hAll'⟩
    refine ⟨made ++ made', kept ++ kept', ?_, ?_,
      (List.prefix_append_right_inj _).mpr hMade',
      (List.prefix_append_right_inj _).mpr hKept', ?_⟩
    · rw [hCalls', hCalls, List.append_assoc]
    · rw [hStored', hStored, List.append_assoc]
    · intro y hOk
      rcases hAll' y hOk with ⟨hMade, hKept, hValue⟩
      exact ⟨by rw [hMade], by rw [hKept], hValue⟩

theorem Follows.after_silent
    {a : Action (Recorded σ) α}
    {k : α → Action (Recorded σ) β}
    {script : List Call}
    {files : List (String × Bytes)}
    {between : α → Prop}
    {value : β → Prop}
    (ha : Follows a [] [] between)
    (hk : ∀ x, between x → Follows (k x) script files value) :
    Follows (a >>= k) script files value :=
  ha.bind hk

theorem Follows.after_call
    {a : Action (Recorded σ) α}
    {k : α → Action (Recorded σ) β}
    {call : Call}
    {script : List Call}
    {files : List (String × Bytes)}
    {between : α → Prop}
    {value : β → Prop}
    (ha : Follows a [call] [] between)
    (hk : ∀ x, between x → Follows (k x) script files value) :
    Follows (a >>= k) (call :: script) files value :=
  ha.bind hk

theorem Follows.after_file
    {a : Action (Recorded σ) α}
    {k : α → Action (Recorded σ) β}
    {call : Call}
    {script : List Call}
    {file : String × Bytes}
    {files : List (String × Bytes)}
    {between : α → Prop}
    {value : β → Prop}
    (ha : Follows a [call] [file] between)
    (hk : ∀ x, between x → Follows (k x) script files value) :
    Follows (a >>= k) (call :: script) (file :: files) value :=
  ha.bind hk

theorem Follows.before_silent
    {a : Action (Recorded σ) α}
    {k : α → Action (Recorded σ) β}
    {script : List Call}
    {files : List (String × Bytes)}
    {between : α → Prop}
    {value : β → Prop}
    (ha : Follows a script files between)
    (hk : ∀ x, between x → Follows (k x) [] [] value) :
    Follows (a >>= k) script files value := by
  have hAll := ha.bind hk
  rwa [List.append_nil, List.append_nil] at hAll

/- A value made from that of an action needs no calls. -/
theorem Follows.returning
    {a : Action (Recorded σ) α}
    {make : α → β}
    {script : List Call}
    {files : List (String × Bytes)}
    {made : α → Prop}
    {value : β → Prop}
    (ha : Follows a script files made)
    (hMake : ∀ x, made x → value (make x)) :
    Follows (a >>= fun x => pure (make x)) script files value :=
  ha.before_silent fun x hx => pure_follows (hMake x hx)

/- Less may be said about the value. -/
theorem Follows.weaken
    {a : Action (Recorded σ) α}
    {script : List Call}
    {files : List (String × Bytes)}
    {value weaker : α → Prop}
    (ha : Follows a script files value)
    (hValue : ∀ x, value x → weaker x) :
    Follows a script files weaker := by
  intro w r v hRun
  rcases ha w r v hRun with
    ⟨made, kept, hCalls, hStored, hMade, hKept, hAll⟩
  refine ⟨made, kept, hCalls, hStored, hMade, hKept, ?_⟩
  intro x hOk
  rcases hAll x hOk with ⟨hMade, hKept, hx⟩
  exact ⟨hMade, hKept, hValue x hx⟩

/- Other words for a failure leave the script as it is. -/
theorem Follows.refine
    {a : Action (Recorded σ) α}
    {script : List Call}
    {files : List (String × Bytes)}
    {value : α → Prop}
    (words : Fault → Fault)
    (ha : Follows a script files value) :
    Follows (Action.refine words a) script files value := by
  intro w r v hRun
  rw [refine_apply] at hRun
  rcases ha w (a w).1 (a w).2 rfl with
    ⟨made, kept, hCalls, hStored, hMade, hKept, hAll⟩
  cases hRun
  refine ⟨made, kept, hCalls, hStored, hMade, hKept, ?_⟩
  intro x hOk
  apply hAll
  cases hResult : (a w).1 with
  | error f =>
      rw [hResult] at hOk
      cases hOk
  | ok y =>
      rw [hResult] at hOk
      exact hOk

theorem ofResult_follows
    (r : Except Fault α) :
    Follows (ofResult r : Action (Recorded σ) α) [] []
      fun x => r = .ok x := by
  apply follows_of_silent
  · exact fun _ => ⟨rfl, rfl⟩
  · intro w x v hRun
    cases hRun
    rfl

theorem inspect_follows
    (look : FileTree → Except Fault α) :
    Follows (inspect look : Action (Recorded σ) α) [] []
      fun _ => True := by
  apply follows_of_silent
  · exact fun _ => ⟨rfl, rfl⟩
  · exact fun _ _ _ _ => trivial

/- A recorded call is the whole script of its action. -/
theorem recorded_follows
    (call : Call)
    (a : Action σ α) :
    Follows (recorded call a) [call] []
      fun x => ∃ u v, a u = (.ok x, v) := by
  intro w r v hRun
  unfold recorded beside at hRun
  rcases hStep : a { tree := w.tree, outside := w.outside.outside }
    with ⟨result, u⟩
  rw [hStep] at hRun
  cases hRun
  refine ⟨[call], [], rfl, ?_, List.prefix_rfl, List.prefix_rfl, ?_⟩
  · simp
  · intro x hOk
    subst hOk
    exact ⟨rfl, rfl, _, _, hStep⟩

theorem noteStored_follows
    (path : String)
    (bytes : Bytes) :
    Follows (noteStored path bytes : Action (Recorded σ) Unit)
      [] [(path, bytes)] fun _ => True := by
  intro w r v hRun
  cases hRun
  refine ⟨[], [(path, bytes)], ?_, rfl, List.prefix_rfl,
    List.prefix_rfl, ?_⟩
  · simp
  · exact fun _ _ => ⟨rfl, rfl, trivial⟩

end Action

------------------------------------------------------------
-- Programs
------------------------------------------------------------

section Programs

variable {σ : Type}

/- What programs do is not part of the record. -/
theorem Host.run_beside_follows
    (h : Host σ)
    (call : Invocation)
    (explain : RunFault → Fault) :
    (h.beside.run call explain).Follows [] [] fun _ => True := by
  apply Action.follows_of_silent
  · intro w
    rw [Host.run_apply]
    exact ⟨rfl, rfl⟩
  · exact fun _ _ _ _ => trivial

namespace Assembly

theorem build_follows
    (h : Host σ)
    (root : String)
    (kind : ArtifactKind)
    (command : List String) :
    (build h.beside root kind command).Follows [] []
      fun _ => True := by
  cases command with
  | nil => exact Action.pure_follows trivial
  | cons program arguments =>
      apply Action.Follows.bind (Host.run_beside_follows h _ _)
      intro finished _
      split
      · exact Action.pure_follows trivial
      · exact Action.follows_of_silent (fun _ => ⟨rfl, rfl⟩) nofun

theorem buildAll_silent
    (h : Host σ)
    (root : String)
    (c : ArtifactsConfig)
    (kinds : List ArtifactKind)
    (w : World (Recorded σ)) :
    (buildAll h.beside root c kinds w).2.outside.calls =
        w.outside.calls ∧
      (buildAll h.beside root c kinds w).2.outside.stored =
        w.outside.stored := by
  induction kinds generalizing w with
  | nil => exact ⟨rfl, rfl⟩
  | cons kind kinds ih =>
      rcases hStep : build h.beside root kind (c.member kind).build w
        with ⟨f | ⟨⟩, v⟩
      all_goals
        rcases build_follows h root kind _ w _ v hStep with
          ⟨made, kept, hCalls, hStored, hMade, hKept, -⟩
        rw [List.prefix_nil.mp hMade, List.append_nil] at hCalls
        rw [List.prefix_nil.mp hKept, List.append_nil] at hStored
        simp only [buildAll, hStep]
        exact ⟨(ih v).1.trans hCalls, (ih v).2.trans hStored⟩

end Assembly

end Programs

------------------------------------------------------------
-- Signatures
------------------------------------------------------------

/- What a signer has given for some bytes. -/
def Signer.Answers
    {σ : Type}
    (s : Signer σ)
    (data signature : Bytes) : Prop :=
  ∃ w v, s.sign data w = (.ok signature, v)

/-
  A release whose parts are as they were given, and signed by
  one signer that the backend opened for the credential.
-/
structure SignedRelease.SealedBy
    {σ : Type}
    (r : SignedRelease)
    (b : Backend σ)
    (c : Credential)
    (artifacts : ArtifactSet)
    (m : ReleaseMetadata)
    (s : Signer σ) : Prop where
  opened : ∃ w v, b.signer c w = (.ok s, v)
  artifacts_eq : r.artifacts = artifacts
  metadata_eq : r.metadata = m
  document_eq : r.document = m.document
  binary : s.Answers artifacts.binary.bytes r.binarySignature
  sources : s.Answers artifacts.sources.bytes r.sourcesSignature
  docs : s.Answers artifacts.docs.bytes r.docsSignature
  document : s.Answers m.document r.documentSignature

/- The backend is asked for a signer once. -/
theorem Backend.signer_follows
    {σ : Type}
    (b : Backend σ)
    (c : Credential) :
    (b.recorded.signer c).Follows [.signer c] [] fun x =>
      ∃ s, (∃ w v, b.signer c w = (.ok s, v)) ∧ x = s.recorded :=
  (Action.recorded_follows _ _).returning
    fun s hOpened => ⟨s, hOpened, rfl⟩

------------------------------------------------------------
-- Uploads
------------------------------------------------------------

/- The call that stores a file. -/
def UploadFile.call (f : UploadFile) : Call :=
  .put f.path f.bytes

/- A file as it is stored. -/
def UploadFile.content (f : UploadFile) : String × Bytes :=
  (f.path, f.bytes)

theorem Repository.put_follows
    {σ : Type}
    (r : Repository σ)
    (path : String)
    (bytes : Bytes) :
    (r.recorded.put path bytes).Follows
      [.put path bytes] [(path, bytes)] fun _ => True :=
  Action.Follows.bind (Action.recorded_follows _ _)
    fun _ _ => Action.noteStored_follows path bytes

/- The backend is asked for a repository once. -/
theorem Backend.repository_follows
    {σ : Type}
    (b : Backend σ)
    (target : PublishTarget)
    (timeout : Nat) :
    (b.recorded.repository target timeout).Follows
      [.repository target timeout] [] fun x =>
        ∃ r, (∃ w v, b.repository target timeout w = (.ok r, v)) ∧
          x = r.recorded :=
  (Action.recorded_follows _ _).returning
    fun r hOpened => ⟨r, hOpened, rfl⟩

/- Files are stored in the order of their list. -/
theorem uploadAll_follows
    {σ : Type}
    (r : Repository σ)
    (files : List UploadFile) :
    (uploadAll r.recorded files).Follows
      (files.map UploadFile.call) (files.map UploadFile.content)
      fun locations =>
        locations = files.map fun f => r.location f.path := by
  induction files with
  | nil => exact Action.pure_follows rfl
  | cons f files ih =>
      apply Action.Follows.after_file
      · exact (Repository.put_follows r f.path f.bytes).refine _
      · intro _ _
        apply ih.returning
        intro locations hLocations
        rw [hLocations, List.map_cons]
        rfl

------------------------------------------------------------
-- The Steps of a Release
------------------------------------------------------------

namespace Pipeline

variable {σ : Type}
variable {h : Host σ} {b : Backend σ}
variable {p : Pipeline (Recorded σ)}

theorem checkLock_follows (hBackend : p.backend = b.recorded) :
    p.checkLock.Follows [.graph] [] fun _ => True := by
  unfold checkLock
  rw [hBackend]
  apply Action.Follows.after_silent (Action.inspect_follows _)
  intro snapshot _
  apply Action.Follows.after_call (Action.recorded_follows _ _)
  intro graph _
  exact (Action.ofResult_follows _).weaken fun _ _ => trivial

theorem assemble_follows (hHost : p.host = h.beside) :
    p.assemble.Follows [] [] fun _ => True := by
  unfold assemble Assembly.assemble
  rw [hHost]
  apply Action.Follows.after_silent
  · exact Action.follows_of_silent
      (Assembly.buildAll_silent h p.plan.root p.plan.artifacts _)
      fun _ _ _ _ => trivial
  · exact fun _ _ => Action.inspect_follows _

theorem passGate_follows :
    p.passGate.Follows [] [] fun _ => True :=
  Action.inspect_follows _

theorem credential_follows :
    p.credential.Follows [] []
      fun c => p.plan.signing.select = .ok c := by
  apply (Action.ofResult_follows _).weaken
  intro c hSelect
  cases hResult : p.plan.signing.select with
  | error f =>
      rw [hResult] at hSelect
      cases hSelect
  | ok c' =>
      rw [hResult] at hSelect
      cases hSelect
      rfl

theorem signMember_follows
    (s : Signer σ)
    (member : String)
    (data : Bytes) :
    (signMember s.recorded member data).Follows [.sign data] []
      (s.Answers data) :=
  (Action.recorded_follows _ _).refine _

/- The calls that sign a release with a credential. -/
def signScript
    (plan : ReleasePlan)
    (c : Credential)
    (artifacts : ArtifactSet) : List Call :=
  [.signer c, .sign artifacts.binary.bytes,
    .sign artifacts.sources.bytes, .sign artifacts.docs.bytes,
    .sign plan.metadata.document]

theorem sign_follows
    (hBackend : p.backend = b.recorded)
    (c : Credential)
    (artifacts : ArtifactSet) :
    (p.sign c artifacts).Follows (signScript p.plan c artifacts) []
      fun r => ∃ s, r.SealedBy b c artifacts p.plan.metadata s := by
  unfold sign signScript
  rw [hBackend]
  apply Action.Follows.after_call
  · exact (b.signer_follows c).refine _
  rintro _ ⟨s, hOpened, rfl⟩
  apply Action.Follows.after_call (signMember_follows s _ _)
  intro binary hBinary
  apply Action.Follows.after_call (signMember_follows s _ _)
  intro sources hSources
  apply Action.Follows.after_call (signMember_follows s _ _)
  intro docs hDocs
  apply (signMember_follows s _ _).returning
  intro document hDocument
  refine ⟨s, hOpened, rfl, rfl, ?_, hBinary, hSources, hDocs,
    hDocument⟩
  dsimp only

/- Nothing is called for a version that has no target. -/
theorem publish_follows_of_no_target
    {r : SignedRelease}
    {mode : SigningMode}
    {f : ReleaseFault}
    (hRoute : p.plan.router.route p.plan.version = .error f) :
    (p.publish r mode).Follows [] [] fun _ => False := by
  unfold publish
  rw [hRoute]
  apply Action.Follows.after_silent (Action.ofResult_follows _)
  exact nofun

/-
  What the receipt of a release says when its files went to a
  repository.
-/
structure Reports
    (target : PublishTarget)
    (repository : Repository σ)
    (r : SignedRelease)
    (mode : SigningMode)
    (receipt : Receipt) : Prop where
  group : receipt.group = r.metadata.group
  artifact : receipt.artifact = r.metadata.artifact
  version : receipt.version = r.metadata.version
  channel : receipt.channel = target.channel
  target : receipt.target = target.url
  signing : receipt.signing = mode
  artifacts :
    receipt.artifacts =
      Receipt.entries (Layout.ofMetadata r.metadata) r.artifacts
  uploaded :
    receipt.uploaded =
      (uploadPlan (Layout.ofMetadata r.metadata) r).map
        fun f => repository.location f.path

/- The files that a release uploads. -/
def filesOf (r : SignedRelease) : List UploadFile :=
  uploadPlan (Layout.ofMetadata r.metadata) r

/- The calls that upload a release to a target. -/
def publishScript
    (plan : ReleasePlan)
    (target : PublishTarget)
    (r : SignedRelease) : List Call :=
  .repository target plan.timeout :: (filesOf r).map UploadFile.call

theorem publish_follows
    (hBackend : p.backend = b.recorded)
    {target : PublishTarget}
    (hRoute : p.plan.router.route p.plan.version = .ok target)
    (r : SignedRelease)
    (mode : SigningMode) :
    (p.publish r mode).Follows (publishScript p.plan target r)
      ((filesOf r).map UploadFile.content) fun receipt =>
        ∃ repository,
          (∃ w v, b.repository target p.plan.timeout w =
            (.ok repository, v)) ∧
          Reports target repository r mode receipt := by
  unfold publish publishScript
  rw [hRoute, hBackend]
  apply Action.Follows.after_silent (Action.ofResult_follows _)
  intro target' hTarget
  cases hTarget
  apply Action.Follows.after_call (b.repository_follows _ _)
  rintro _ ⟨repository, hOpened, rfl⟩
  have hUpload := uploadAll_follows repository (filesOf r)
  have hClock :
      Action.Follows
        (fun w => (.ok (p.host.clock w), w) :
          Action (Recorded σ) String) [] [] fun _ => True :=
    Action.follows_of_silent (fun _ => ⟨rfl, rfl⟩)
      fun _ _ _ _ => trivial
  apply hUpload.before_silent
  intro uploaded hUploaded
  apply hClock.returning
  intro publishedAt _
  exact ⟨repository, hOpened, rfl, rfl, rfl, rfl, rfl, rfl, rfl,
    hUploaded⟩

end Pipeline

end ReleasePipeline
