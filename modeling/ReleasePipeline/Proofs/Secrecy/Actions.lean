import ReleasePipeline.Command.Project
import ReleasePipeline.Proofs.Host.Actions
import ReleasePipeline.Proofs.Secrecy.Data
import ReleasePipeline.Release.Assembly

/-
  This file proves that what acts on two worlds which look
  alike leaves two worlds which look alike, and ends in the
  same way.  Programs and requests that differ in their
  secrets only are taken to be answered alike, and a keyring
  or a client can be had in both worlds or in none; all that a
  run asks its host for is made of these.

  Key definitions include:
    * `World.Alike`, `Action.Alike`
    * `Host.AnswersAlike`
    * `Signer.Alike`, `Repository.Alike`, `Backend.Alike`

  Main declarations:
    * `Action.Alike.bind`
    * `Signer.alike_forCredential`
    * `Repository.alike_forTarget`, `Repository.alike_openTarget`
    * `Backend.alike_ofWorkspace`
    * `alike_uploadAll`
    * `Assembly.alike_assemble`
    * `Project.alike_load`
-/

------------------------------------------------------------
-- Worlds and Actions
------------------------------------------------------------

namespace ReleasePipeline

variable {σ τ α β γ δ : Type}

/- The same tree, and what is outside of it is related. -/
structure World.Alike
    (R : σ → τ → Prop)
    (w : World σ)
    (v : World τ) : Prop where
  tree : w.tree = v.tree
  outside : R w.outside v.outside

theorem World.Alike.eq
    {w v : World σ}
    (hWorlds : World.Alike Eq w v) :
    w = v := by
  cases w
  cases v
  rcases hWorlds with ⟨rfl, rfl⟩
  rfl

variable {R : σ → τ → Prop}
variable {V : α → β → Prop} {V' : γ → δ → Prop}

namespace Action

/-
  Two actions that end alike in worlds which are alike: with
  values that are related or with the same failure, and in
  worlds which are alike again.
-/
def Alike
    (R : σ → τ → Prop)
    (V : α → β → Prop)
    (a : Action σ α)
    (b : Action τ β) : Prop :=
  ∀ w v, World.Alike R w v →
    Except.Alike V (a w).1 (b v).1 ∧ World.Alike R (a w).2 (b v).2

/- A second action may rely on what the first has returned. -/
theorem Alike.bind
    {a : Action σ α}
    {b : Action τ β}
    {k : α → Action σ γ}
    {l : β → Action τ δ}
    (hFirst : Alike R V a b)
    (hSecond : ∀ x y, V x y → Alike R V' (k x) (l y)) :
    Alike R V' (a >>= k) (b >>= l) := by
  intro w v hWorlds
  rcases hFirst w v hWorlds with ⟨hResult, hNext⟩
  rw [bind_apply, bind_apply]
  generalize a w = ended at hResult hNext ⊢
  generalize b v = ended' at hResult hNext ⊢
  rcases ended with ⟨result, w'⟩
  rcases ended' with ⟨result', v'⟩
  cases hResult with
  | ok hValue => exact hSecond _ _ hValue w' v' hNext
  | error f => exact ⟨.error f, hNext⟩

/- Values that are the same need only be looked at once. -/
theorem Alike.bind_same
    {a : Action σ α}
    {b : Action τ α}
    {k : α → Action σ γ}
    {l : α → Action τ δ}
    (hFirst : Alike R Eq a b)
    (hSecond : ∀ x, Alike R V' (k x) (l x)) :
    Alike R V' (a >>= k) (b >>= l) := by
  apply hFirst.bind
  rintro x _ rfl
  exact hSecond x

theorem alike_pure
    {x : α}
    {y : β}
    (hValue : V x y) :
    Alike R V (pure x : Action σ α) (pure y : Action τ β) :=
  fun _ _ hWorlds => ⟨.ok hValue, hWorlds⟩

theorem alike_throw (f : Fault) :
    Alike R V (throw f : Action σ α) (throw f : Action τ β) :=
  fun _ _ hWorlds => ⟨.error f, hWorlds⟩

theorem alike_ofResult
    {r : Except Fault α}
    {s : Except Fault β}
    (hResult : Except.Alike V r s) :
    Alike R V (ofResult r) (ofResult s) :=
  fun _ _ hWorlds => ⟨hResult, hWorlds⟩

/- Trees that are alike are the same, and look the same. -/
theorem alike_inspect (look : FileTree → Except Fault α) :
    Alike R Eq (inspect look) (inspect look) := by
  intro w v hWorlds
  refine ⟨?_, hWorlds⟩
  unfold inspect
  rw [hWorlds.tree]
  exact Except.alike_self _

theorem alike_update (change : FileTree → Except Fault FileTree) :
    Alike R Eq (update change) (update change) := by
  intro w v hWorlds
  unfold update
  rw [hWorlds.tree]
  cases change v.tree with
  | ok tree => exact ⟨.ok rfl, rfl, hWorlds.outside⟩
  | error f => exact ⟨.error f, hWorlds⟩

theorem alike_updatePartly
    (change : FileTree → Except Fault Unit × FileTree) :
    Alike R Eq (updatePartly change) (updatePartly change) := by
  intro w v hWorlds
  rw [updatePartly_apply, updatePartly_apply, hWorlds.tree]
  exact ⟨Except.alike_self _, rfl, hWorlds.outside⟩

/- What can be had in one world can be had in the other. -/
theorem alike_ask
    {ε : Type}
    {answer : World σ → Except ε Unit}
    {answer' : World τ → Except ε Unit}
    (hAnswer : ∀ {w v}, World.Alike R w v → answer w = answer' v)
    (explain : ε → Fault) :
    Alike R Eq (ask answer explain) (ask answer' explain) := by
  intro w v hWorlds
  unfold ask
  rw [hAnswer hWorlds]
  exact ⟨Except.alike_self _, hWorlds⟩

theorem Alike.refine
    {a : Action σ α}
    {b : Action τ β}
    (hAlike : Alike R V a b)
    (words : Fault → Fault) :
    Alike R V (refine words a) (refine words b) := by
  intro w v hWorlds
  rw [refine_apply, refine_apply]
  exact ⟨(hAlike w v hWorlds).1.mapError words,
    (hAlike w v hWorlds).2⟩

end Action

------------------------------------------------------------
-- Hosts
------------------------------------------------------------

/-
  Two hosts that give the same answers: to programs and to
  requests that differ in their secrets only, and when they
  are asked for a keyring or a client.  What the time is on
  them is left open.
-/
structure Host.AnswersAlike
    (S : Secret → Secret → Prop)
    (R : σ → τ → Prop)
    (h : Host σ)
    (g : Host τ) : Prop where
  start :
    ∀ {call call' w v},
      Invocation.Alike S call call' → World.Alike R w v →
      (h.start call w).1 = (g.start call' v).1 ∧
        World.Alike R (h.start call w).2 (g.start call' v).2
  keyring :
    ∀ {w v} permissions,
      World.Alike R w v → h.keyring permissions w = g.keyring permissions v
  client : ∀ {w v}, World.Alike R w v → h.client w = g.client v
  request :
    ∀ {request request' w v},
      WebRequest.Alike S request request' → World.Alike R w v →
      (h.request request w).1 = (g.request request' v).1 ∧
        World.Alike R (h.request request w).2 (g.request request' v).2

variable {S : Secret → Secret → Prop}
variable {h : Host σ} {g : Host τ}

theorem Host.AnswersAlike.run
    (hHosts : Host.AnswersAlike S R h g)
    {call call' : Invocation}
    (hCall : Invocation.Alike S call call')
    (explain : RunFault → Fault) :
    Action.Alike R Eq (h.run call explain) (g.run call' explain) := by
  intro w v hWorlds
  rcases hHosts.start hCall hWorlds with ⟨hResult, hNext⟩
  rw [Host.run_apply, Host.run_apply, hResult]
  exact ⟨Except.alike_self _, hNext⟩

------------------------------------------------------------
-- Signers
------------------------------------------------------------

/- Two signers that sign alike. -/
def Signer.Alike
    (R : σ → τ → Prop)
    (s : Signer σ)
    (t : Signer τ) : Prop :=
  ∀ data, Action.Alike R Eq (s.sign data) (t.sign data)

namespace Keyring

theorem alike_outputOf
    (hHosts : Host.AnswersAlike S R h g)
    {call call' : Invocation}
    (hCall : Invocation.Alike S call call') :
    Action.Alike R Eq (outputOf h call) (outputOf g call') := by
  have hProgram : call.program = call'.program := by
    cases hCall <;> rfl
  unfold outputOf
  rw [hProgram]
  apply (hHosts.run hCall _).bind_same
  intro finished
  split
  · exact Action.alike_pure rfl
  · exact Action.alike_throw _

/- Keyrings whose calls are alike make signers that are alike. -/
theorem alike_signer
    (hHosts : Host.AnswersAlike S R h g)
    (program : String)
    {k k' : Keyring}
    (hCalls :
      ∀ data,
        Invocation.Alike S (k.signCall program data)
          (k'.signCall program data)) :
    Signer.Alike R (k.signer h program) (k'.signer g program) := by
  intro data
  apply (alike_outputOf hHosts (hCalls data)).bind_same
  intro output
  split
  · exact Action.alike_pure rfl
  · exact Action.alike_throw _

end Keyring

/- Credentials that are alike are opened alike. -/
theorem Signer.alike_forCredential
    (hHosts : Host.AnswersAlike S R h g)
    {c c' : Credential}
    (hCredential : Credential.Alike S c c') :
    Action.Alike R (Signer.Alike R) (forCredential h c)
      (forCredential g c') := by
  cases hCredential with
  | inMemory hKey hPassphrase program =>
      have hImport :=
        Keyring.alike_outputOf hHosts
          (Invocation.Alike.importing program hKey)
      apply (Action.alike_ask (hHosts.keyring _) _).bind_same
      intro made
      apply (hImport.refine _).bind_same
      intro output
      apply Action.alike_pure
      apply Keyring.alike_signer hHosts program
      exact fun data => .signing program data hPassphrase
  | agent key =>
      apply Action.alike_pure
      apply Keyring.alike_signer hHosts key.program
      exact fun data => .bare rfl

------------------------------------------------------------
-- Repositories
------------------------------------------------------------

/- Two repositories that store and fetch alike. -/
structure Repository.Alike
    (R : σ → τ → Prop)
    (r : Repository σ)
    (s : Repository τ) : Prop where
  put :
    ∀ path bytes,
      Action.Alike R Eq (r.put path bytes) (s.put path bytes)
  get : ∀ path, Action.Alike R Eq (r.get path) (s.get path)
  location : r.location = s.location

namespace Repository

theorem alike_atDirectory (root : String) :
    Repository.Alike R (atDirectory root) (atDirectory root) := by
  constructor
  case put =>
    intro path bytes
    dsimp only [atDirectory]
    exact Action.alike_updatePartly _
  case get =>
    intro path
    dsimp only [atDirectory]
    exact Action.alike_inspect _
  case location => rfl

theorem alike_send
    (hHosts : Host.AnswersAlike S R h g)
    {request request' : WebRequest}
    (hRequest : WebRequest.Alike S request request') :
    Action.Alike R Eq (send h request) (send g request') := by
  intro w v hWorlds
  rcases hHosts.request hRequest hWorlds with ⟨hResult, hNext⟩
  unfold send
  generalize h.request request w = ended at hResult hNext ⊢
  generalize g.request request' v = ended' at hResult hNext ⊢
  rcases ended with ⟨result, w'⟩
  rcases ended' with ⟨result', v'⟩
  cases hResult
  cases result with
  | ok response => exact ⟨.ok rfl, hNext⟩
  | error reason => exact ⟨.error _, hNext⟩

theorem alike_requestFor
    {target target' : PublishTarget}
    (hTarget : PublishTarget.Alike S target target')
    (timeout : Nat)
    (path : String)
    (body : Option Bytes) :
    WebRequest.Alike S (requestFor target timeout path body)
      (requestFor target' timeout path body) := by
  rcases hTarget with ⟨target, hUsername, hPassword⟩
  exact .mk (requestFor target timeout path body) hUsername hPassword

theorem alike_atAddress
    (hHosts : Host.AnswersAlike S R h g)
    {target target' : PublishTarget}
    (hTarget : PublishTarget.Alike S target target')
    (timeout : Nat) :
    Repository.Alike R (atAddress h target timeout)
      (atAddress g target' timeout) := by
  constructor
  case put =>
    intro path bytes
    have hSend :=
      alike_send hHosts
        (alike_requestFor hTarget timeout path (some bytes))
    apply hSend.bind_same
    intro response
    split
    · exact Action.alike_pure rfl
    · exact Action.alike_throw _
  case get =>
    intro path
    have hSend :=
      alike_send hHosts (alike_requestFor hTarget timeout path none)
    dsimp only [atAddress]
    rw [hTarget.url_eq]
    apply (hSend.refine _).bind_same
    intro response
    split
    · exact Action.alike_ofResult (Except.alike_self _)
    · exact Action.alike_throw _
  case location =>
    dsimp only [atAddress]
    rw [hTarget.url_eq]

/- Targets that are alike are local or remote alike. -/
theorem alike_forTarget
    (hHosts : Host.AnswersAlike S R h g)
    {target target' : PublishTarget}
    (hTarget : PublishTarget.Alike S target target')
    (timeout : Nat) :
    Repository.Alike R (forTarget h target timeout)
      (forTarget g target' timeout) := by
  unfold forTarget
  rw [hTarget.url_eq]
  cases localPath? target'.url with
  | some root => exact alike_atDirectory root
  | none => exact alike_atAddress hHosts hTarget timeout

theorem alike_prepare
    (hHosts : Host.AnswersAlike S R h g)
    {target target' : PublishTarget}
    (hTarget : PublishTarget.Alike S target target') :
    Action.Alike R Eq (prepare h target) (prepare g target') := by
  unfold prepare
  rw [hTarget.url_eq]
  split
  · exact Action.alike_pure rfl
  · exact Action.alike_ask hHosts.client _

theorem alike_openTarget
    (hHosts : Host.AnswersAlike S R h g)
    {target target' : PublishTarget}
    (hTarget : PublishTarget.Alike S target target')
    (timeout : Nat) :
    Action.Alike R (Repository.Alike R) (openTarget h target timeout)
      (openTarget g target' timeout) := by
  apply (alike_prepare hHosts hTarget).bind_same
  intro prepared
  exact Action.alike_pure (alike_forTarget hHosts hTarget timeout)

end Repository

variable {r : Repository σ} {s : Repository τ}

/- Files are stored alike, up to the first that is not. -/
theorem alike_uploadAll
    (hRepository : Repository.Alike R r s)
    (files : List UploadFile) :
    Action.Alike R Eq (uploadAll r files) (uploadAll s files) := by
  induction files with
  | nil => exact Action.alike_pure rfl
  | cons f files ih =>
      unfold uploadAll
      rw [hRepository.location]
      apply ((hRepository.put f.path f.bytes).refine _).bind_same
      intro stored
      apply ih.bind_same
      intro locations
      exact Action.alike_pure rfl

theorem alike_fetchMetadata
    (hRepository : Repository.Alike R r s)
    (l : Layout) :
    Action.Alike R Eq (fetchMetadata r l) (fetchMetadata s l) := by
  apply (hRepository.get l.metadataPath).bind_same
  intro document
  exact Action.alike_ofResult (Except.alike_self _)

------------------------------------------------------------
-- Collaborators
------------------------------------------------------------

/- Two backends that do alike what differs in its secrets only. -/
structure Backend.Alike
    (S : Secret → Secret → Prop)
    (R : σ → τ → Prop)
    (b : Backend σ)
    (d : Backend τ) : Prop where
  resolvedGraph : Action.Alike R Eq b.resolvedGraph d.resolvedGraph
  signer :
    ∀ {c c'},
      Credential.Alike S c c' →
      Action.Alike R (Signer.Alike R) (b.signer c) (d.signer c')
  repository :
    ∀ {target target'} timeout,
      PublishTarget.Alike S target target' →
      Action.Alike R (Repository.Alike R) (b.repository target timeout)
        (d.repository target' timeout)

theorem Backend.alike_ofWorkspace
    (hHosts : Host.AnswersAlike S R h g)
    (w : Workspace) :
    Backend.Alike S R (.ofWorkspace h w) (.ofWorkspace g w) where
  resolvedGraph := Action.alike_inspect _
  signer := Signer.alike_forCredential hHosts
  repository timeout hTarget :=
    Repository.alike_openTarget hHosts hTarget timeout

------------------------------------------------------------
-- Artifacts and Projects
------------------------------------------------------------

namespace Assembly

theorem alike_build
    (hHosts : Host.AnswersAlike S R h g)
    (root : String)
    (kind : ArtifactKind)
    (command : List String) :
    Action.Alike R Eq (build h root kind command)
      (build g root kind command) := by
  cases command with
  | nil => exact Action.alike_pure rfl
  | cons program arguments =>
      unfold build
      apply (hHosts.run (.bare rfl) _).bind_same
      intro finished
      split
      · exact Action.alike_pure rfl
      · exact Action.alike_throw _

/- All builds are run in both worlds, whichever of them fail. -/
theorem alike_buildAll
    (hHosts : Host.AnswersAlike S R h g)
    (root : String)
    (c : ArtifactsConfig)
    (schedule : List ArtifactKind) :
    Action.Alike R Eq (buildAll h root c schedule)
      (buildAll g root c schedule) := by
  induction schedule with
  | nil => exact Action.alike_pure rfl
  | cons kind kinds ih =>
      intro w v hWorlds
      let command := (c.member kind).build
      rcases alike_build hHosts root kind command w v hWorlds with
        ⟨hResult, hNext⟩
      unfold buildAll
      generalize build h root kind command w = ended
        at hResult hNext ⊢
      generalize build g root kind command v = ended'
        at hResult hNext ⊢
      rcases ended with ⟨result, w'⟩
      rcases ended' with ⟨result', v'⟩
      cases hResult with
      | ok hValue => exact ih w' v' hNext
      | error f => exact ⟨.error f, (ih w' v' hNext).2⟩

theorem alike_assemble
    (hHosts : Host.AnswersAlike S R h g)
    (schedule : List ArtifactKind)
    (root : String)
    (c : ArtifactsConfig)
    (artifact : String)
    (version : Version) :
    Action.Alike R Eq (assemble h schedule root c artifact version)
      (assemble g schedule root c artifact version) := by
  apply (alike_buildAll hHosts root c schedule).bind_same
  intro built
  exact Action.alike_inspect _

end Assembly

theorem Workspace.alike_load
    (hHosts : Host.AnswersAlike S R h g)
    (root : String) :
    Action.Alike R Eq (load h root) (load g root) := by
  apply (hHosts.run (.bare rfl) _).bind_same
  intro finished
  split
  · exact Action.alike_ofResult (Except.alike_self _)
  · exact Action.alike_throw _

/- The same project is found. -/
theorem Project.alike_load
    (hHosts : Host.AnswersAlike S R h g)
    (root : String) :
    Action.Alike R Eq (load h root) (load g root) := by
  have hWorkspace :
      Action.Alike R Eq (loadWorkspace h root)
        (loadWorkspace g root) := by
    apply (Action.alike_inspect _).bind_same
    intro found
    split
    · apply (Workspace.alike_load hHosts root).bind_same
      intro w
      exact Action.alike_pure rfl
    · exact Action.alike_pure rfl
  apply (Action.alike_inspect _).bind_same
  intro config
  apply hWorkspace.bind_same
  intro workspace
  exact Action.alike_pure rfl

end ReleasePipeline
