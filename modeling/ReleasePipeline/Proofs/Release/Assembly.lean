import Mathlib.Logic.Function.Basic
import Mathlib.Logic.Relation
import ReleasePipeline.Proofs.Release.Builds

/-
  This file proves what comes of an assembly whose builds, and
  then whose readers, do not wait for each other.  They may be
  taken up in any order.  Once one has failed, those that
  nobody has begun may be left out, and any failure that has
  come up may be the one that is reported.

  Key definitions include:
    * `Assembly.Phase`, `Assembly.Site`
    * `Assembly.Job.Step`, `Assembly.Job.Reaches`
    * `Assembly.Job.Sound`

  Main declarations:
    * `Assembly.Job.sound_step`, `Assembly.Job.sound_of_reaches`
    * `Assembly.Job.reaches_ended`, `Assembly.Job.reaches_assemble`
    * `Assembly.Job.assembles_under_any_schedule`
-/

------------------------------------------------------------
-- Sites
------------------------------------------------------------

namespace ReleasePipeline

namespace Assembly

/-
  How far an assembly has come: with the builds, or after them
  with the outputs, of which some still wait for a worker.  An
  output that has been read is put into the slot of its member.
-/
inductive Phase where
  | building
      (waiting : List ArtifactKind)
      (faults : List Fault)
  | reading
      (waiting : List ArtifactKind)
      (slots : ArtifactKind → Option Artifact)
      (faults : List Fault)
  | finished (result : Except Fault ArtifactSet)

/- An assembly under way, with the builds that have been run. -/
structure Site (σ : Type) where
  world : World σ
  order : List ArtifactKind
  phase : Phase

/- Nothing has been built. -/
def Site.start
    {σ : Type}
    (w : World σ) : Site σ where
  world := w
  order := []
  phase := .building ArtifactKind.all []

/- The failures that a result adds to those that have come up. -/
def faultsOf
    {α : Type} : Except Fault α → List Fault
  | .ok _ => []
  | .error f => [f]

/- The artifacts in the slots, of which none may be empty. -/
def gather
    (slots : ArtifactKind → Option Artifact) :
    Except Fault ArtifactSet :=
  match slots .binary, slots .sources, slots .docs with
  | some binary, some sources, some docs =>
      .ok { binary, sources, docs }
  | _, _, _ => .error (.plain "artifact set is incomplete")

namespace Job

variable {σ : Type}

/-
  What can happen next.  The workers take up what waits in any
  order; after a failure they may leave it.  The outputs are
  read when all builds have come back without a failure.
-/
inductive Step (j : Job σ) : Site σ → Site σ → Prop where
  | build
      {w : World σ}
      {order waiting : List ArtifactKind}
      {faults : List Fault}
      {kind : ArtifactKind}
      (hWaiting : kind ∈ waiting) :
      Step j
        { world := w, order, phase := .building waiting faults }
        { world := (j.build kind w).2
          order := order ++ [kind]
          phase := .building (waiting.erase kind)
            (faults ++ faultsOf (j.build kind w).1) }
  | leaveBuild
      {w : World σ}
      {order waiting : List ArtifactKind}
      {faults : List Fault}
      {kind : ArtifactKind}
      (hWaiting : kind ∈ waiting)
      (hFaults : faults ≠ []) :
      Step j
        { world := w, order, phase := .building waiting faults }
        { world := w, order
          phase := .building (waiting.erase kind) faults }
  | breakOff
      {w : World σ}
      {order : List ArtifactKind}
      {faults : List Fault}
      {f : Fault}
      (hFault : f ∈ faults) :
      Step j
        { world := w, order, phase := .building [] faults }
        { world := w, order, phase := .finished (.error f) }
  | join
      {w : World σ}
      {order : List ArtifactKind} :
      Step j
        { world := w, order, phase := .building [] [] }
        { world := w, order
          phase := .reading ArtifactKind.all (fun _ => none) [] }
  | read
      {w : World σ}
      {order waiting : List ArtifactKind}
      {slots : ArtifactKind → Option Artifact}
      {faults : List Fault}
      {kind : ArtifactKind}
      (hWaiting : kind ∈ waiting) :
      Step j
        { world := w, order, phase := .reading waiting slots faults }
        { world := w, order
          phase := .reading (waiting.erase kind)
            (Function.update slots kind
              (j.output w.tree kind).toOption)
            (faults ++ faultsOf (j.output w.tree kind)) }
  | leaveOutput
      {w : World σ}
      {order waiting : List ArtifactKind}
      {slots : ArtifactKind → Option Artifact}
      {faults : List Fault}
      {kind : ArtifactKind}
      (hWaiting : kind ∈ waiting)
      (hFaults : faults ≠ []) :
      Step j
        { world := w, order, phase := .reading waiting slots faults }
        { world := w, order
          phase := .reading (waiting.erase kind) slots faults }
  | giveUp
      {w : World σ}
      {order : List ArtifactKind}
      {slots : ArtifactKind → Option Artifact}
      {faults : List Fault}
      {f : Fault}
      (hFault : f ∈ faults) :
      Step j
        { world := w, order, phase := .reading [] slots faults }
        { world := w, order, phase := .finished (.error f) }
  | handOn
      {w : World σ}
      {order : List ArtifactKind}
      {slots : ArtifactKind → Option Artifact} :
      Step j
        { world := w, order, phase := .reading [] slots [] }
        { world := w, order, phase := .finished (gather slots) }

/- What can come about after any number of steps. -/
def Reaches (j : Job σ) : Site σ → Site σ → Prop :=
  Relation.ReflTransGen j.Step

------------------------------------------------------------
-- What a Step Keeps
------------------------------------------------------------

/- What is known while builds are run. -/
structure Builds
    (j : Job σ)
    (w : World σ)
    (order : List ArtifactKind)
    (v : World σ)
    (waiting : List ArtifactKind)
    (faults : List Fault) : Prop where
  world_eq : v = j.worldAfter order w
  nodup : (order ++ waiting).Nodup
  complete : faults = [] → ∀ kind, kind ∈ order ++ waiting
  succeeded :
    faults = [] → ∀ kind ∈ order,
      j.AtTurn order w kind (j.Succeeds kind)
  failed :
    ∀ f ∈ faults, ∃ kind reason, f = missing kind reason ∧
      j.AtTurn order w kind (j.FailsWith kind · reason)

/- What is known when all builds have succeeded. -/
structure Built
    (j : Job σ)
    (w : World σ)
    (order : List ArtifactKind)
    (v : World σ) : Prop where
  world_eq : v = j.worldAfter order w
  perm : order.Perm ArtifactKind.all
  succeeded : ∀ kind, j.AtTurn order w kind (j.Succeeds kind)

/- What is known while outputs are read. -/
structure Reads
    (j : Job σ)
    (t : FileTree)
    (waiting : List ArtifactKind)
    (slots : ArtifactKind → Option Artifact)
    (faults : List Fault) : Prop where
  filled : ∀ kind a, slots kind = some a → j.output t kind = .ok a
  complete :
    faults = [] → ∀ kind, kind ∈ waiting ∨ ∃ a, slots kind = some a
  failed : ∀ f ∈ faults, ∃ kind, j.output t kind = .error f

/- What is known of a result. -/
def Concludes
    (j : Job σ)
    (w : World σ)
    (order : List ArtifactKind)
    (v : World σ) : Except Fault ArtifactSet → Prop
  | .ok s =>
      j.Built w order v ∧
        j.output v.tree .binary = .ok s.binary ∧
        j.output v.tree .sources = .ok s.sources ∧
        j.output v.tree .docs = .ok s.docs
  | .error f =>
      (∃ faults, j.Builds w order v [] faults ∧ f ∈ faults) ∨
      (j.Built w order v ∧ ∃ kind, j.output v.tree kind = .error f)

/- What is known at any time. -/
def Sound
    (j : Job σ)
    (w : World σ)
    (s : Site σ) : Prop :=
  match s.phase with
  | .building waiting faults =>
      j.Builds w s.order s.world waiting faults
  | .reading waiting slots faults =>
      j.Built w s.order s.world ∧
        j.Reads s.world.tree waiting slots faults
  | .finished result => j.Concludes w s.order s.world result

variable {j : Job σ} {w v : World σ}
variable {order waiting : List ArtifactKind}
variable {slots : ArtifactKind → Option Artifact}
variable {faults : List Fault}

theorem sound_start (j : Job σ) (w : World σ) :
    j.Sound w (.start w) where
  world_eq := rfl
  nodup := ArtifactKind.nodup_all
  complete _ := ArtifactKind.mem_all
  succeeded _ _ hMem := absurd hMem List.not_mem_nil
  failed _ hMem := absurd hMem List.not_mem_nil

theorem mem_faultsOf_iff
    {α : Type}
    {r : Except Fault α}
    {f : Fault} :
    f ∈ faultsOf r ↔ r = .error f := by
  cases r <;> simp [faultsOf, eq_comm]

theorem faultsOf_eq_nil_iff
    {α : Type}
    {r : Except Fault α} :
    faultsOf r = [] ↔ ∃ a, r = .ok a := by
  cases r <;> simp [faultsOf]

/- One more build has been run. -/
theorem Builds.build
    (hBuilds : j.Builds w order v waiting faults)
    {kind : ArtifactKind}
    (hWaiting : kind ∈ waiting) :
    j.Builds w (order ++ [kind]) (j.build kind v).2
      (waiting.erase kind)
      (faults ++ faultsOf (j.build kind v).1) := by
  have hWorld := hBuilds.world_eq
  have hPerm :
      (order ++ [kind] ++ waiting.erase kind).Perm
        (order ++ waiting) := by
    rw [List.append_assoc]
    exact (List.perm_cons_erase hWaiting).symm.append_left order
  constructor
  · rw [worldAfter_append, ← hWorld]
    rfl
  · exact hPerm.nodup_iff.mpr hBuilds.nodup
  · intro hNone other
    exact hPerm.mem_iff.mpr
      (hBuilds.complete (List.append_eq_nil_iff.mp hNone).1 other)
  · intro hNone other hMem
    rw [List.append_eq_nil_iff, faultsOf_eq_nil_iff] at hNone
    rcases hNone with ⟨hNone, ⟨⟩, hDone⟩
    rcases List.mem_append.mp hMem with hMem | hMem
    · exact (hBuilds.succeeded hNone other hMem).append [kind]
    · rw [List.mem_singleton] at hMem
      subst hMem
      exact atTurn_last (hWorld ▸ succeeds_of_build hDone)
  · intro f hMem
    rcases List.mem_append.mp hMem with hMem | hMem
    · rcases hBuilds.failed f hMem with ⟨other, reason, hFault, hTurn⟩
      exact ⟨other, reason, hFault, hTurn.append [kind]⟩
    · rw [mem_faultsOf_iff] at hMem
      rcases failsWith_of_build hMem with ⟨reason, hFault, hFails⟩
      exact ⟨kind, reason, hFault, atTurn_last (hWorld ▸ hFails)⟩

/- A build is left after a failure. -/
theorem Builds.leave
    (hBuilds : j.Builds w order v waiting faults)
    (hFaults : faults ≠ [])
    (kind : ArtifactKind) :
    j.Builds w order v (waiting.erase kind) faults where
  world_eq := hBuilds.world_eq
  nodup :=
    hBuilds.nodup.sublist (List.erase_sublist.append_left order)
  complete hNone := absurd hNone hFaults
  succeeded hNone := absurd hNone hFaults
  failed := hBuilds.failed

/- No build is left and none has failed. -/
theorem Builds.built
    (hBuilds : j.Builds w order v [] []) :
    j.Built w order v := by
  have hNodup := hBuilds.nodup
  have hComplete := hBuilds.complete rfl
  rw [List.append_nil] at hNodup hComplete
  constructor
  · exact hBuilds.world_eq
  · exact (List.perm_ext_iff_of_nodup hNodup
      ArtifactKind.nodup_all).mpr
        fun kind => iff_of_true (hComplete kind) kind.mem_all
  · exact fun kind => hBuilds.succeeded rfl kind (hComplete kind)

/- Nothing has been read. -/
theorem reads_start
    (j : Job σ)
    (t : FileTree) :
    j.Reads t ArtifactKind.all (fun _ => none) [] where
  filled _ _ hSome := by cases hSome
  complete _ kind := .inl kind.mem_all
  failed _ hMem := absurd hMem List.not_mem_nil

/- One more output has been read. -/
theorem Reads.read
    {t : FileTree}
    (hReads : j.Reads t waiting slots faults)
    (kind : ArtifactKind) :
    j.Reads t (waiting.erase kind)
      (Function.update slots kind (j.output t kind).toOption)
      (faults ++ faultsOf (j.output t kind)) := by
  constructor
  · intro other a hSome
    by_cases hSame : other = kind
    · subst hSame
      rw [Function.update_self] at hSome
      exact Except.eq_ok_of_toOption hSome
    · rw [Function.update_of_ne hSame] at hSome
      exact hReads.filled other a hSome
  · intro hNone other
    rw [List.append_eq_nil_iff, faultsOf_eq_nil_iff] at hNone
    rcases hNone with ⟨hNone, a, hRead⟩
    by_cases hSame : other = kind
    · subst hSame
      rw [hRead, Function.update_self]
      exact .inr ⟨a, rfl⟩
    · rw [Function.update_of_ne hSame, List.mem_erase_of_ne hSame]
      exact hReads.complete hNone other
  · intro f hMem
    rcases List.mem_append.mp hMem with hMem | hMem
    · exact hReads.failed f hMem
    · exact ⟨kind, mem_faultsOf_iff.mp hMem⟩

/- An output is left after a failure. -/
theorem Reads.leave
    {t : FileTree}
    (hReads : j.Reads t waiting slots faults)
    (hFaults : faults ≠ [])
    (kind : ArtifactKind) :
    j.Reads t (waiting.erase kind) slots faults where
  filled := hReads.filled
  complete hNone := absurd hNone hFaults
  failed := hReads.failed

/- No output is left, so that no slot is empty. -/
theorem Reads.gathered
    {t : FileTree}
    (hReads : j.Reads t [] slots []) :
    ∃ artifacts, gather slots = .ok artifacts ∧
      j.output t .binary = .ok artifacts.binary ∧
      j.output t .sources = .ok artifacts.sources ∧
      j.output t .docs = .ok artifacts.docs := by
  have hFilled (kind : ArtifactKind) :
      ∃ a, slots kind = some a ∧ j.output t kind = .ok a := by
    rcases hReads.complete rfl kind with hNone | ⟨a, hSome⟩
    · exact absurd hNone List.not_mem_nil
    · exact ⟨a, hSome, hReads.filled kind a hSome⟩
  rcases hFilled .binary with ⟨binary, hBinary, hFirst⟩
  rcases hFilled .sources with ⟨sources, hSources, hSecond⟩
  rcases hFilled .docs with ⟨docs, hDocs, hThird⟩
  refine ⟨{ binary, sources, docs }, ?_, hFirst, hSecond, hThird⟩
  simp only [gather, hBinary, hSources, hDocs]

/- Whatever happens next, it is known what it comes to. -/
theorem sound_step
    {s s' : Site σ}
    (hSound : j.Sound w s)
    (hStep : j.Step s s') :
    j.Sound w s' := by
  cases hStep with
  | build hWaiting => exact Builds.build hSound hWaiting
  | leaveBuild _ hFaults => exact Builds.leave hSound hFaults _
  | breakOff hFault => exact .inl ⟨_, hSound, hFault⟩
  | join => exact ⟨Builds.built hSound, j.reads_start _⟩
  | read _ => exact ⟨hSound.1, hSound.2.read _⟩
  | leaveOutput _ hFaults =>
      exact ⟨hSound.1, hSound.2.leave hFaults _⟩
  | giveUp hFault =>
      exact .inr ⟨hSound.1, hSound.2.failed _ hFault⟩
  | handOn =>
      rcases hSound.2.gathered with ⟨s, hGather, hRead⟩
      change j.Concludes w _ _ (gather _)
      rw [hGather]
      exact ⟨hSound.1, hRead⟩

theorem sound_of_reaches
    {s : Site σ}
    (hReaches : j.Reaches (.start w) s) :
    j.Sound w s := by
  induction hReaches with
  | refl => exact j.sound_start w
  | tail _ hStep hSound => exact sound_step hSound hStep

------------------------------------------------------------
-- Ends
------------------------------------------------------------

end Job

/- An assembly that has come to an end. -/
def Site.ended
    {σ : Type}
    (order : List ArtifactKind)
    (outcome : Except Fault ArtifactSet × World σ) : Site σ where
  world := outcome.2
  order := order
  phase := .finished outcome.1

/- More than the steps that an assembly can still take. -/
def Phase.remaining : Phase → Nat
  | .building waiting _ => waiting.length + 5
  | .reading waiting _ _ => waiting.length + 1
  | .finished _ => 0

namespace Job

variable {j : Job σ}

theorem remaining_lt
    {s s' : Site σ}
    (hStep : j.Step s s') :
    s'.phase.remaining < s.phase.remaining := by
  have hErase
      {kind : ArtifactKind}
      {waiting : List ArtifactKind}
      (hWaiting : kind ∈ waiting) :
      (waiting.erase kind).length < waiting.length := by
    rw [List.length_erase_of_mem hWaiting]
    exact Nat.sub_lt (List.length_pos_of_mem hWaiting) Nat.one_pos
  cases hStep with
  | build hWaiting => exact Nat.add_lt_add_right (hErase hWaiting) 5
  | leaveBuild hWaiting _ =>
      exact Nat.add_lt_add_right (hErase hWaiting) 5
  | breakOff _ => exact Nat.zero_lt_succ _
  | join => exact Nat.lt_succ_self _
  | read hWaiting => exact Nat.add_lt_add_right (hErase hWaiting) 1
  | leaveOutput hWaiting _ =>
      exact Nat.add_lt_add_right (hErase hWaiting) 1
  | giveUp _ => exact Nat.zero_lt_succ _
  | handOn => exact Nat.zero_lt_succ _

/- An assembly has come to its end, or goes on. -/
theorem ended_or_step (j : Job σ) (s : Site σ) :
    (∃ order outcome, s = .ended order outcome) ∨ ∃ s', j.Step s s' := by
  rcases s with ⟨v, order, phase⟩
  cases phase with
  | building waiting faults =>
      cases waiting with
      | cons kind waiting => exact .inr ⟨_, .build List.mem_cons_self⟩
      | nil =>
          cases faults with
          | nil => exact .inr ⟨_, .join⟩
          | cons f faults =>
              exact .inr ⟨_, .breakOff List.mem_cons_self⟩
  | reading waiting slots faults =>
      cases waiting with
      | cons kind waiting => exact .inr ⟨_, .read List.mem_cons_self⟩
      | nil =>
          cases faults with
          | nil => exact .inr ⟨_, .handOn⟩
          | cons f faults =>
              exact .inr ⟨_, .giveUp List.mem_cons_self⟩
  | finished result => exact .inl ⟨order, (result, v), rfl⟩

/- So it comes to an end at last. -/
theorem reaches_ended (j : Job σ) (s : Site σ) :
    ∃ order outcome, j.Reaches s (.ended order outcome) := by
  induction hSteps : s.phase.remaining using Nat.strongRecOn
      generalizing s with
  | _ n ih =>
      rcases j.ended_or_step s with ⟨order, outcome, rfl⟩ | ⟨s', hStep⟩
      · exact ⟨order, outcome, .refl⟩
      · rcases ih _ (hSteps ▸ remaining_lt hStep) s' rfl with
          ⟨order, outcome, hReaches⟩
        exact ⟨order, outcome, .head hStep hReaches⟩

------------------------------------------------------------
-- Schedules
------------------------------------------------------------

/- Run builds in the order of a schedule. -/
def buildAll
    (j : Job σ)
    (schedule : List ArtifactKind) : Action σ Unit :=
  Assembly.buildAll j.host j.root j.config schedule

theorem buildAll_cons
    (j : Job σ)
    (kind : ArtifactKind)
    (schedule : List ArtifactKind)
    (v : World σ) :
    j.buildAll (kind :: schedule) v =
      match (j.build kind v).1 with
      | .ok () => j.buildAll schedule (j.build kind v).2
      | .error f =>
          (.error f, (j.buildAll schedule (j.build kind v).2).2) := by
  unfold buildAll build command
  rw [Assembly.buildAll]
  dsimp only
  rcases Assembly.build j.host j.root kind
    (j.config.member kind).build v with ⟨f | u, v'⟩ <;> rfl

/- The builds can be run in the order of a schedule. -/
theorem reaches_buildAll
    (j : Job σ)
    {waiting schedule : List ArtifactKind}
    (hSchedule : waiting.Perm schedule)
    (order : List ArtifactKind)
    (faults : List Fault)
    (v : World σ) :
    ∃ more,
      j.Reaches
        { world := v, order, phase := .building waiting faults }
        { world := (j.buildAll schedule v).2
          order := order ++ schedule
          phase := .building [] (faults ++ more) } ∧
      (j.buildAll schedule v).1 =
        match more with
        | [] => .ok ()
        | f :: _ => .error f := by
  induction schedule generalizing waiting order faults v with
  | nil =>
      rw [hSchedule.eq_nil, List.append_nil]
      refine ⟨[], ?_, rfl⟩
      rw [List.append_nil]
      exact .refl
  | cons kind schedule ih =>
      have hFirst :
          j.Step
            { world := v, order, phase := .building waiting faults }
            _ :=
        .build (hSchedule.mem_iff.mpr List.mem_cons_self)
      have hRest := hSchedule.erase kind
      rw [List.erase_cons_head] at hRest
      rcases ih hRest (order ++ [kind])
        (faults ++ faultsOf (j.build kind v).1) (j.build kind v).2 with
        ⟨more, hReaches, hResult⟩
      rw [List.append_assoc, List.append_assoc] at hReaches
      refine ⟨faultsOf (j.build kind v).1 ++ more, ?_, ?_⟩
      · have hWorld :
            (j.buildAll (kind :: schedule) v).2 =
              (j.buildAll schedule (j.build kind v).2).2 := by
          rw [buildAll_cons]
          split <;> rfl
        rw [hWorld]
        exact .head hFirst hReaches
      · rw [buildAll_cons]
        cases (j.build kind v).1 with
        | ok u => exact hResult
        | error f => rfl

/- What is in the slots when some outputs have been read. -/
def fill
    (j : Job σ)
    (t : FileTree)
    (kinds : List ArtifactKind)
    (slots : ArtifactKind → Option Artifact) :
    ArtifactKind → Option Artifact :=
  kinds.foldl
    (fun slots kind =>
      Function.update slots kind (j.output t kind).toOption)
    slots

/- The outputs can be read in their order. -/
theorem reaches_fill
    (j : Job σ)
    (v : World σ)
    (order waiting : List ArtifactKind)
    (slots : ArtifactKind → Option Artifact)
    (faults : List Fault) :
    j.Reaches
      { world := v, order, phase := .reading waiting slots faults }
      { world := v, order
        phase := .reading [] (j.fill v.tree waiting slots)
          (faults ++
            waiting.flatMap fun kind =>
              faultsOf (j.output v.tree kind)) } := by
  induction waiting generalizing slots faults with
  | nil =>
      rw [List.flatMap_nil, List.append_nil]
      exact .refl
  | cons kind waiting ih =>
      have hFirst :
          j.Step
            { world := v, order
              phase := .reading (kind :: waiting) slots faults }
            _ :=
        .read List.mem_cons_self
      rw [List.erase_cons_head] at hFirst
      rw [List.flatMap_cons, ← List.append_assoc]
      exact .head hFirst (ih _ _)

/- Read all outputs, one after another. -/
def collect
    (j : Job σ)
    (t : FileTree) : Except Fault ArtifactSet :=
  Assembly.collect j.root j.config j.artifact j.version t

/- The first failure in the order of the members is one of all. -/
theorem reaches_collect
    (j : Job σ)
    (v : World σ)
    (order : List ArtifactKind) :
    j.Reaches
      { world := v, order
        phase := .reading ArtifactKind.all (fun _ => none) [] }
      (.ended order (j.collect v.tree, v)) := by
  refine Relation.ReflTransGen.tail
    (j.reaches_fill v order ArtifactKind.all (fun _ => none) []) ?_
  have hCollect :
      j.collect v.tree = (do
        let binary ← j.output v.tree .binary
        let sources ← j.output v.tree .sources
        let docs ← j.output v.tree .docs
        pure { binary, sources, docs }) := rfl
  rw [hCollect]
  simp only [ArtifactKind.all, fill, List.foldl_cons, List.foldl_nil,
    List.flatMap_cons, List.flatMap_nil, List.nil_append]
  cases hBinary : j.output v.tree .binary with
  | error f => exact .giveUp (by simp [faultsOf])
  | ok binary =>
      cases hSources : j.output v.tree .sources with
      | error f => exact .giveUp (by simp [faultsOf])
      | ok sources =>
          cases hDocs : j.output v.tree .docs with
          | error f => exact .giveUp (by simp [faultsOf])
          | ok docs => exact .handOn

/- What is assembled in the order of a schedule can come about. -/
theorem reaches_assemble
    (j : Job σ)
    (w : World σ)
    {schedule : List ArtifactKind}
    (hSchedule : schedule.Perm ArtifactKind.all) :
    j.Reaches (.start w) (.ended schedule (j.assemble schedule w)) := by
  rcases j.reaches_buildAll hSchedule.symm [] [] w with
    ⟨faults, hReaches, hResult⟩
  have hAssemble :
      j.assemble schedule w =
        (j.buildAll schedule >>= fun _ => Action.inspect j.collect) w :=
    rfl
  rw [hAssemble, Action.bind_apply]
  rcases hBuilds : j.buildAll schedule w with ⟨result, v⟩
  rw [hBuilds] at hReaches hResult
  cases faults with
  | nil =>
      cases hResult
      exact hReaches.trans (.head .join (j.reaches_collect v schedule))
  | cons f faults =>
      cases hResult
      exact hReaches.tail (.breakOff List.mem_cons_self)

------------------------------------------------------------
-- Results
------------------------------------------------------------

/- An output is read from its file, or its file is missing. -/
theorem output_cases
    (j : Job σ)
    (t : FileTree)
    (kind : ArtifactKind) :
    (∃ bytes, t.read (j.path kind) = .ok bytes ∧
      j.output t kind = .ok { kind, path := j.path kind, bytes }) ∨
    ∃ e, t.read (j.path kind) = .error e ∧
      j.output t kind =
        .error (missing kind s!"{j.path kind}: {e.message}") := by
  unfold output readOutput
  cases t.read (j.path kind) with
  | ok bytes => exact .inl ⟨bytes, rfl, rfl⟩
  | error e => exact .inr ⟨e, rfl, rfl⟩

theorem output_eq_ok
    {t : FileTree}
    {kind : ArtifactKind}
    {a : Artifact}
    (hOutput : j.output t kind = .ok a) :
    a.kind = kind ∧ a.path = j.path kind ∧
      t.read (j.path kind) = .ok a.bytes := by
  rcases j.output_cases t kind with ⟨bytes, hRead, hFound⟩ | ⟨e, -, hFound⟩
  · rw [hFound] at hOutput
    cases hOutput
    dsimp only
    exact ⟨rfl, rfl, hRead⟩
  · rw [hFound] at hOutput
    cases hOutput

theorem output_eq_error
    {t : FileTree}
    {kind : ArtifactKind}
    {f : Fault}
    (hOutput : j.output t kind = .error f) :
    ∃ e, t.read (j.path kind) = .error e ∧
      f = missing kind s!"{j.path kind}: {e.message}" := by
  rcases j.output_cases t kind with ⟨bytes, -, hFound⟩ | ⟨e, hRead, hFound⟩
  · rw [hFound] at hOutput
    cases hOutput
  · rw [hFound] at hOutput
    cases hOutput
    exact ⟨e, hRead, rfl⟩

/- All outputs can be read where all builds have succeeded. -/
theorem Concludes.exists_ok_iff
    {result : Except Fault ArtifactSet}
    (hResult : j.Concludes w order v result) :
    (∃ s, result = .ok s) ↔
      (∀ kind, j.AtTurn order w kind (j.Succeeds kind)) ∧
        ∀ kind, ∃ bytes, v.tree.read (j.path kind) = .ok bytes := by
  cases result with
  | ok s =>
      rcases hResult with ⟨hBuilt, hBinary, hSources, hDocs⟩
      refine iff_of_true ⟨s, rfl⟩ ⟨hBuilt.succeeded, fun kind => ?_⟩
      cases kind with
      | binary => exact ⟨_, (output_eq_ok hBinary).2.2⟩
      | sources => exact ⟨_, (output_eq_ok hSources).2.2⟩
      | docs => exact ⟨_, (output_eq_ok hDocs).2.2⟩
  | error f =>
      refine iff_of_false (fun ⟨s, hOk⟩ => by cases hOk) ?_
      rintro ⟨hSucceeded, hReadable⟩
      rcases hResult with ⟨faults, hBuilds, hFault⟩ | ⟨-, kind, hOutput⟩
      · have hNodup := hBuilds.nodup
        rw [List.append_nil] at hNodup
        rcases hBuilds.failed f hFault with ⟨kind, reason, -, hFailed⟩
        rcases hFailed.and hNodup (hSucceeded kind) with
          ⟨u, hFails, hSucceeds⟩
        exact hFails.not_succeeds hSucceeds
      · rcases hReadable kind with ⟨bytes, hRead⟩
        rcases output_eq_error hOutput with ⟨e, hMissing, -⟩
        rw [hRead] at hMissing
        cases hMissing

/- The members have what is in their files after the builds. -/
theorem Concludes.members
    {s : ArtifactSet}
    (hResult : j.Concludes w order v (.ok s)) :
    s.members.map (·.kind) = ArtifactKind.all ∧
      ∀ a ∈ s.members,
        a.path = j.path a.kind ∧ v.tree.read a.path = .ok a.bytes := by
  rcases hResult with ⟨-, hBinary, hSources, hDocs⟩
  rcases output_eq_ok hBinary with ⟨hFirst, hPath, hRead⟩
  rcases output_eq_ok hSources with ⟨hSecond, hPath', hRead'⟩
  rcases output_eq_ok hDocs with ⟨hThird, hPath'', hRead''⟩
  constructor
  · simp only [ArtifactSet.members, List.map_cons, List.map_nil,
      hFirst, hSecond, hThird]
    rfl
  · intro a hMem
    simp only [ArtifactSet.members, List.mem_cons, List.not_mem_nil,
      or_false] at hMem
    rcases hMem with rfl | rfl | rfl
    · rw [hFirst, hPath]
      exact ⟨rfl, hRead⟩
    · rw [hSecond, hPath']
      exact ⟨rfl, hRead'⟩
    · rw [hThird, hPath'']
      exact ⟨rfl, hRead''⟩

/- A failure is that of a build, or of an output if all succeeded. -/
theorem Concludes.fault
    {f : Fault}
    (hResult : j.Concludes w order v (.error f)) :
    ∃ kind reason, f = missing kind reason ∧
      (j.AtTurn order w kind (j.FailsWith kind · reason) ∨
        (∀ kind, j.AtTurn order w kind (j.Succeeds kind)) ∧
          ∃ e, v.tree.read (j.path kind) = .error e ∧
            reason = s!"{j.path kind}: {e.message}") := by
  rcases hResult with ⟨faults, hBuilds, hFault⟩ | ⟨hBuilt, kind, hOutput⟩
  · rcases hBuilds.failed f hFault with ⟨kind, reason, hEq, hFailed⟩
    exact ⟨kind, reason, hEq, .inl hFailed⟩
  · rcases output_eq_error hOutput with ⟨e, hRead, hEq⟩
    exact ⟨kind, _, hEq, .inr ⟨hBuilt.succeeded, e, hRead, rfl⟩⟩

theorem Concludes.world_eq
    {result : Except Fault ArtifactSet}
    (hResult : j.Concludes w order v result) :
    v = j.worldAfter order w := by
  cases result with
  | ok s => exact hResult.1.world_eq
  | error f =>
      rcases hResult with ⟨faults, hBuilds, -⟩ | ⟨hBuilt, -⟩
      · exact hBuilds.world_eq
      · exact hBuilt.world_eq

/-
  Whatever the order in which the builds are run and the
  outputs are read, the artifacts are assembled if and only if
  every build succeeds when it is its turn and every output
  can then be read.  They are what is in the files after all
  builds.  A failure is that of a member whose build or output
  failed, and no output is read before every build has
  succeeded.  An assembly comes to an end, and each schedule
  of the builds is one way to get there.
-/
theorem assembles_under_any_schedule
    (j : Job σ)
    (w : World σ) :
    (∀ schedule : List ArtifactKind,
      schedule.Perm ArtifactKind.all →
        j.Reaches (.start w) (.ended schedule (j.assemble schedule w))) ∧
    (∀ s : Site σ, j.Reaches (.start w) s →
      ∃ order outcome, j.Reaches s (.ended order outcome)) ∧
    (∀ (v : World σ) (order waiting : List ArtifactKind)
        (slots : ArtifactKind → Option Artifact) (faults : List Fault),
      j.Reaches (.start w)
          { world := v, order, phase := .reading waiting slots faults } →
        ∀ kind, j.AtTurn order w kind (j.Succeeds kind)) ∧
    ∀ (order : List ArtifactKind) (result : Except Fault ArtifactSet)
        (v : World σ),
      j.Reaches (.start w) (.ended order (result, v)) →
        v = j.worldAfter order w ∧
        ((∃ s, result = .ok s) ↔
          (∀ kind, j.AtTurn order w kind (j.Succeeds kind)) ∧
            ∀ kind, ∃ bytes, v.tree.read (j.path kind) = .ok bytes) ∧
        (∀ s, result = .ok s →
          order.Perm ArtifactKind.all ∧
            s.members.map (·.kind) = ArtifactKind.all ∧
            ∀ a ∈ s.members,
              a.path = j.path a.kind ∧
                v.tree.read a.path = .ok a.bytes ∧
                a.sha256 = Sha256.hexDigest a.bytes) ∧
        ∀ f, result = .error f →
          ∃ kind reason, f = missing kind reason ∧
            (j.AtTurn order w kind (j.FailsWith kind · reason) ∨
              (∀ kind, j.AtTurn order w kind (j.Succeeds kind)) ∧
                ∃ e, v.tree.read (j.path kind) = .error e ∧
                  reason = s!"{j.path kind}: {e.message}") := by
  refine ⟨fun schedule => j.reaches_assemble w,
    fun s _ => j.reaches_ended s, ?_, ?_⟩
  · intro v order waiting slots faults hReaches
    have hSound : j.Sound w _ := sound_of_reaches hReaches
    exact hSound.1.succeeded
  · intro order result v hReaches
    have hResult : j.Concludes w order v result :=
      sound_of_reaches hReaches
    refine ⟨hResult.world_eq, hResult.exists_ok_iff, ?_, ?_⟩
    · rintro s rfl
      rcases hResult.members with ⟨hKinds, hFiles⟩
      refine ⟨hResult.1.perm, hKinds, fun a hMem => ?_⟩
      exact ⟨(hFiles a hMem).1, (hFiles a hMem).2, rfl⟩
    · rintro f rfl
      exact hResult.fault

end Job

end Assembly

namespace Sample

/- A host on which one program writes the sources. -/
def buildingHost : Host Unit where
  start call w :=
    if call.program = "make" then
      match w.tree.write "/p/s" [1] with
      | .ok tree =>
          (.ok { status := 0, output := [], errors := [] }, { w with tree })
      | .error e => (.error (.unstarted e), w)
    else
      (.error (.unstarted .notFound), w)
  request _ w := (.error "", w)
  clock _ := ""

/- The build of the binary writes the sources. -/
def job : Assembly.Job Unit where
  host := buildingHost
  root := "/p"
  config :=
    { binary := { path := "b", build := ["make"] }
      sources := { path := "s", build := [] }
      docs := { path := "d", build := [] } }
  artifact := "a"
  version := { text := "1.0", segment := by decide }

/- There are no sources before the builds. -/
def unbuiltWorld : World Unit where
  tree :=
    { entries :=
        [(["p"], .directory), (["p", "b"], .file []),
          (["p", "d"], .file [])]
      workingDirectory := [] }
  outside := ()

end Sample

/- The sources are those that the build of the binary has written. -/
theorem Assembly.Job.sample_assembles_under_any_schedule :
    ∃ s v,
      Sample.job.Reaches (.start Sample.unbuiltWorld)
          (.ended [.docs, .binary, .sources] (.ok s, v)) ∧
        (∀ kind, Sample.job.AtTurn [.docs, .binary, .sources]
          Sample.unbuiltWorld kind (Sample.job.Succeeds kind)) ∧
        v.tree.read "/p/s" = .ok [1] ∧
        s.sources.sha256 = Sha256.hexDigest [1] := by
  rcases assembles_under_any_schedule Sample.job Sample.unbuiltWorld with
    ⟨hSchedule, -, -, hEnded⟩
  have hReaches := hSchedule [.docs, .binary, .sources] (by decide)
  have hSources :
      (Sample.job.assemble [.docs, .binary, .sources]
        Sample.unbuiltWorld).1.toOption.map (·.sources) =
          some { kind := .sources, path := "/p/s", bytes := [1] } := by
    decide +kernel
  rcases hRun :
      Sample.job.assemble [.docs, .binary, .sources]
        Sample.unbuiltWorld with
    ⟨f | s, v⟩
  · rw [hRun] at hSources
    cases hSources
  · rw [hRun] at hReaches hSources
    have hFound :
        s.sources = { kind := .sources, path := "/p/s", bytes := [1] } :=
      Option.some.inj hSources
    rcases hEnded _ _ _ hReaches with ⟨-, hOk, hMembers, -⟩
    rcases hMembers s rfl with ⟨-, -, hFiles⟩
    rcases hFiles s.sources (by simp [ArtifactSet.members]) with
      ⟨-, hRead, hDigest⟩
    rw [hFound] at hRead
    refine ⟨s, v, hReaches, (hOk.mp ⟨s, rfl⟩).1, hRead, ?_⟩
    rw [hDigest, hFound]

end ReleasePipeline
