import ReleasePipeline.Proofs.Secrecy.Actions

/-
  This file proves that two runs which are alike leave records
  that are alike: the calls of a release differ in their
  secrets only, and every program is started with the same
  arguments.  A run does the same whether it is recorded or
  not.

  Key definitions include:
    * `Recorded.Alike`
    * `Noted`, `Noted.Alike`
    * `Host.noting`
    * `World.watched`
    * `Recorded.Around`, `Noted.Around`

  Main declarations:
    * `Recorded.Alike.puts_eq`, `Noted.Alike.withoutInput_eq`
    * `Backend.Alike.recorded`
    * `Host.AnswersAlike.beside`, `Host.AnswersAlike.noting`
    * `Backend.Alike.recorded_left`
-/

------------------------------------------------------------
-- Calls
------------------------------------------------------------

namespace ReleasePipeline

variable {σ τ α β γ : Type}
variable {S : Secret → Secret → Prop}
variable {R : σ → τ → Prop} {V : α → β → Prop}

/-
  Two records: calls that differ in their secrets only, and
  the same files.
-/
structure Recorded.Alike
    (S : Secret → Secret → Prop)
    (R : σ → τ → Prop)
    (x : Recorded σ)
    (y : Recorded τ) : Prop where
  calls : List.Forall₂ (Call.Alike S) x.calls y.calls
  stored : x.stored = y.stored
  outside : R x.outside y.outside

theorem World.Alike.withoutRecord
    {w : World (Recorded σ)}
    {v : World (Recorded τ)}
    (hWorlds : World.Alike (Recorded.Alike S R) w v) :
    World.Alike R { tree := w.tree, outside := w.outside.outside }
      { tree := v.tree, outside := v.outside.outside } :=
  ⟨hWorlds.tree, hWorlds.outside.outside⟩

namespace Action.Alike

variable {a : Action σ α} {b : Action τ β}

theorem beside (hAlike : Alike R V a b) :
    Alike (Recorded.Alike S R) V a.beside b.beside := by
  intro w v hWorlds
  rcases hAlike _ _ hWorlds.withoutRecord with ⟨hResult, hNext⟩
  rcases hWorlds with ⟨-, hCalls, hStored, -⟩
  exact ⟨hResult, hNext.tree, hCalls, hStored, hNext.outside⟩

/- A call is recorded before it is made. -/
theorem recorded
    (hAlike : Alike R V a b)
    {call call' : Call}
    (hCall : Call.Alike S call call') :
    Alike (Recorded.Alike S R) V (a.recorded call)
      (b.recorded call') := by
  intro w v hWorlds
  rcases hWorlds with ⟨hTree, hCalls, hStored, hOutside⟩
  apply hAlike.beside
  refine ⟨hTree, ?_, hStored, hOutside⟩
  exact List.rel_append hCalls (.cons hCall .nil)

end Action.Alike

theorem Action.alike_noteStored
    (path : String)
    (bytes : Bytes) :
    Action.Alike (Recorded.Alike S R) Eq (noteStored path bytes)
      (noteStored path bytes) := by
  intro w v hWorlds
  rcases hWorlds with ⟨hTree, hCalls, hStored, hOutside⟩
  refine ⟨.ok rfl, hTree, hCalls, ?_, hOutside⟩
  exact congrArg (· ++ [(path, bytes)]) hStored

theorem Signer.Alike.recorded
    {s : Signer σ}
    {t : Signer τ}
    (hAlike : Signer.Alike R s t) :
    Signer.Alike (Recorded.Alike S R) s.recorded t.recorded :=
  fun data => (hAlike data).recorded (.sign data)

theorem Repository.Alike.recorded
    {r : Repository σ}
    {s : Repository τ}
    (hAlike : Repository.Alike R r s) :
    Repository.Alike (Recorded.Alike S R) r.recorded s.recorded where
  put path bytes :=
    ((hAlike.put path bytes).recorded (.put path bytes)).bind_same
      fun _ => Action.alike_noteStored path bytes
  get path := (hAlike.get path).recorded (.get path)
  location := hAlike.location

/- Backends that are alike are so when their calls are recorded. -/
theorem Backend.Alike.recorded
    {b : Backend σ}
    {d : Backend τ}
    (hAlike : Backend.Alike S R b d) :
    Backend.Alike S (Recorded.Alike S R) b.recorded d.recorded where
  resolvedGraph := hAlike.resolvedGraph.recorded .graph
  signer hCredential :=
    ((hAlike.signer hCredential).recorded (.signer hCredential)).bind
      fun _ _ hSigner => Action.alike_pure hSigner.recorded
  repository timeout hTarget :=
    ((hAlike.repository timeout hTarget).recorded
      (.repository hTarget timeout)).bind
        fun _ _ hRepository => Action.alike_pure hRepository.recorded

/- The files that are stored are the same, tried ones included. -/
theorem Recorded.Alike.puts_eq
    {x : Recorded σ}
    {y : Recorded τ}
    (hAlike : Recorded.Alike S R x y) :
    x.calls.filterMap Call.put? = y.calls.filterMap Call.put? := by
  have hCalls := hAlike.calls
  generalize x.calls = calls at hCalls ⊢
  generalize y.calls = calls' at hCalls ⊢
  induction hCalls with
  | nil => rfl
  | cons hCall _ ih =>
      rw [List.filterMap_cons, List.filterMap_cons, hCall.put?_eq, ih]

variable {h : Host σ} {g : Host τ}

theorem Host.AnswersAlike.beside
    (hHosts : Host.AnswersAlike S R h g) :
    Host.AnswersAlike S (Recorded.Alike S R) h.beside g.beside where
  start hCall hWorlds := by
    rcases hHosts.start hCall hWorlds.withoutRecord with
      ⟨hResult, hNext⟩
    rcases hWorlds with ⟨-, hCalls, hStored, -⟩
    exact ⟨hResult, hNext.tree, hCalls, hStored, hNext.outside⟩
  keyring permissions hWorlds :=
    hHosts.keyring permissions hWorlds.withoutRecord
  client hWorlds := hHosts.client hWorlds.withoutRecord
  request hRequest hWorlds := by
    rcases hHosts.request hRequest hWorlds.withoutRecord with
      ⟨hResult, hNext⟩
    rcases hWorlds with ⟨-, hCalls, hStored, -⟩
    exact ⟨hResult, hNext.tree, hCalls, hStored, hNext.outside⟩

------------------------------------------------------------
-- Programs
------------------------------------------------------------

/- The programs started so far, beside what else there is. -/
structure Noted (σ : Type) where
  started : List Invocation
  outside : σ

/- A host that notes every program before it is started. -/
def Host.noting (h : Host σ) : Host (Noted σ) where
  start call w :=
    let (result, v) :=
      h.start call { tree := w.tree, outside := w.outside.outside }
    (result,
      { tree := v.tree
        outside :=
          { started := w.outside.started ++ [call]
            outside := v.outside } })
  keyring permissions w :=
    h.keyring permissions
      { tree := w.tree, outside := w.outside.outside }
  client w := h.client { tree := w.tree, outside := w.outside.outside }
  request request w :=
    let (result, v) :=
      h.request request
        { tree := w.tree, outside := w.outside.outside }
    (result,
      { tree := v.tree
        outside := { w.outside with outside := v.outside } })
  clock w := h.clock { tree := w.tree, outside := w.outside.outside }

/- A world in which no program has been noted. -/
def World.noting (w : World σ) : World (Noted σ) where
  tree := w.tree
  outside := { started := [], outside := w.outside }

/- Two notes: programs that differ in their inputs only. -/
structure Noted.Alike
    (S : Secret → Secret → Prop)
    (R : σ → τ → Prop)
    (x : Noted σ)
    (y : Noted τ) : Prop where
  started : List.Forall₂ (Invocation.Alike S) x.started y.started
  outside : R x.outside y.outside

/- But for their inputs, programs are started the same. -/
theorem Noted.Alike.withoutInput_eq
    {x : Noted σ}
    {y : Noted τ}
    (hAlike : Noted.Alike S R x y) :
    x.started.map Invocation.withoutInput =
      y.started.map Invocation.withoutInput := by
  have hStarted := hAlike.started
  generalize x.started = started at hStarted ⊢
  generalize y.started = started' at hStarted ⊢
  induction hStarted with
  | nil => rfl
  | cons hCall _ ih =>
      rw [List.map_cons, List.map_cons, hCall.withoutInput_eq, ih]

theorem World.Alike.noting
    {w : World σ}
    {v : World τ}
    (hWorlds : World.Alike R w v) :
    World.Alike (Noted.Alike S R) w.noting v.noting :=
  ⟨hWorlds.tree, .nil, hWorlds.outside⟩

theorem World.Alike.withoutNotes
    {w : World (Noted σ)}
    {v : World (Noted τ)}
    (hWorlds : World.Alike (Noted.Alike S R) w v) :
    World.Alike R { tree := w.tree, outside := w.outside.outside }
      { tree := v.tree, outside := v.outside.outside } :=
  ⟨hWorlds.tree, hWorlds.outside.outside⟩

/- Hosts that answer alike note programs that are alike. -/
theorem Host.AnswersAlike.noting
    (hHosts : Host.AnswersAlike S R h g) :
    Host.AnswersAlike S (Noted.Alike S R) h.noting g.noting where
  start hCall hWorlds := by
    rcases hHosts.start hCall hWorlds.withoutNotes with
      ⟨hResult, hNext⟩
    refine ⟨hResult, hNext.tree, ?_, hNext.outside⟩
    exact List.rel_append hWorlds.outside.started (.cons hCall .nil)
  keyring permissions hWorlds :=
    hHosts.keyring permissions hWorlds.withoutNotes
  client hWorlds := hHosts.client hWorlds.withoutNotes
  request hRequest hWorlds := by
    rcases hHosts.request hRequest hWorlds.withoutNotes with
      ⟨hResult, hNext⟩
    exact ⟨hResult, hNext.tree, hWorlds.outside.started,
      hNext.outside⟩

------------------------------------------------------------
-- Watching
------------------------------------------------------------

/- A world in which nothing has been recorded or noted. -/
def World.watched (w : World σ) : World (Recorded (Noted σ)) where
  tree := w.tree
  outside := { calls := [], outside := w.noting.outside }

theorem World.Alike.watched
    {w : World σ}
    {v : World τ}
    (hWorlds : World.Alike R w v) :
    World.Alike (Recorded.Alike S (Noted.Alike S R)) w.watched
      v.watched :=
  ⟨hWorlds.tree, .nil, rfl, .nil, hWorlds.outside⟩

/- What is beside a record is related to another state. -/
def Recorded.Around
    (R : σ → τ → Prop)
    (x : Recorded σ)
    (y : τ) : Prop :=
  R x.outside y

/- What is beside the notes is related to another state. -/
def Noted.Around
    (R : σ → τ → Prop)
    (x : Noted σ)
    (y : τ) : Prop :=
  R x.outside y

theorem World.Alike.besideRecord
    {w : World (Recorded σ)}
    {v : World τ}
    (hWorlds : World.Alike (Recorded.Around R) w v) :
    World.Alike R { tree := w.tree, outside := w.outside.outside }
      v :=
  ⟨hWorlds.tree, hWorlds.outside⟩

theorem World.Alike.besideNotes
    {w : World (Noted σ)}
    {v : World τ}
    (hWorlds : World.Alike (Noted.Around R) w v) :
    World.Alike R { tree := w.tree, outside := w.outside.outside }
      v :=
  ⟨hWorlds.tree, hWorlds.outside⟩

namespace Action

variable {a : Action σ α} {b : Action τ β}

/- An action does the same when its call is recorded. -/
theorem Alike.recorded_left
    (hAlike : Alike R V a b)
    (call : Call) :
    Alike (Recorded.Around R) V (a.recorded call) b := by
  intro w v hWorlds
  rcases hAlike _ v hWorlds.besideRecord with ⟨hResult, hNext⟩
  exact ⟨hResult, hNext.tree, hNext.outside⟩

/- What an action returns may be turned into something alike. -/
theorem Alike.bind_left
    {V' : γ → β → Prop}
    {k : α → Action σ γ}
    (hFirst : Alike R V a b)
    (hSecond : ∀ x y, V x y → Alike R V' (k x) (pure y)) :
    Alike R V' (a >>= k) b := by
  rw [← bind_pure b]
  exact hFirst.bind hSecond

end Action

theorem Signer.Alike.recorded_left
    {s : Signer σ}
    {t : Signer τ}
    (hAlike : Signer.Alike R s t) :
    Signer.Alike (Recorded.Around R) s.recorded t :=
  fun data => (hAlike data).recorded_left (.sign data)

theorem Repository.Alike.recorded_left
    {r : Repository σ}
    {s : Repository τ}
    (hAlike : Repository.Alike R r s) :
    Repository.Alike (Recorded.Around R) r.recorded s where
  put path bytes := by
    have hPut :=
      (hAlike.put path bytes).recorded_left (.put path bytes)
    apply hPut.bind_left
    intro _ _ _ w v hWorlds
    exact ⟨.ok rfl, hWorlds.tree, hWorlds.outside⟩
  get path := (hAlike.get path).recorded_left (.get path)
  location := hAlike.location

theorem Backend.Alike.recorded_left
    {b : Backend σ}
    {d : Backend τ}
    (hAlike : Backend.Alike S R b d) :
    Backend.Alike S (Recorded.Around R) b.recorded d where
  resolvedGraph := hAlike.resolvedGraph.recorded_left .graph
  signer hCredential :=
    ((hAlike.signer hCredential).recorded_left _).bind_left
      fun _ _ hSigner => Action.alike_pure hSigner.recorded_left
  repository timeout hTarget :=
    ((hAlike.repository timeout hTarget).recorded_left _).bind_left
      fun _ _ hRepository =>
        Action.alike_pure hRepository.recorded_left

theorem Host.AnswersAlike.beside_left
    (hHosts : Host.AnswersAlike S R h g) :
    Host.AnswersAlike S (Recorded.Around R) h.beside g where
  start hCall hWorlds := by
    rcases hHosts.start hCall hWorlds.besideRecord with
      ⟨hResult, hNext⟩
    exact ⟨hResult, hNext.tree, hNext.outside⟩
  keyring permissions hWorlds :=
    hHosts.keyring permissions hWorlds.besideRecord
  client hWorlds := hHosts.client hWorlds.besideRecord
  request hRequest hWorlds := by
    rcases hHosts.request hRequest hWorlds.besideRecord with
      ⟨hResult, hNext⟩
    exact ⟨hResult, hNext.tree, hNext.outside⟩

theorem Host.AnswersAlike.noting_left
    (hHosts : Host.AnswersAlike S R h g) :
    Host.AnswersAlike S (Noted.Around R) h.noting g where
  start hCall hWorlds := by
    rcases hHosts.start hCall hWorlds.besideNotes with
      ⟨hResult, hNext⟩
    exact ⟨hResult, hNext.tree, hNext.outside⟩
  keyring permissions hWorlds :=
    hHosts.keyring permissions hWorlds.besideNotes
  client hWorlds := hHosts.client hWorlds.besideNotes
  request hRequest hWorlds := by
    rcases hHosts.request hRequest hWorlds.besideNotes with
      ⟨hResult, hNext⟩
    exact ⟨hResult, hNext.tree, hNext.outside⟩

/- A host answers like itself, to secrets that are the same. -/
theorem Host.answersAlike_self
    (hSecrets : ∀ s t, S s t → s = t)
    (h : Host σ) :
    Host.AnswersAlike S Eq h h where
  start hCall hWorlds := by
    rw [hCall.eq hSecrets, hWorlds.eq]
    exact ⟨rfl, rfl, rfl⟩
  keyring permissions hWorlds := by
    rw [hWorlds.eq]
  client hWorlds := by
    rw [hWorlds.eq]
  request hRequest hWorlds := by
    rw [hRequest.eq hSecrets, hWorlds.eq]
    exact ⟨rfl, rfl, rfl⟩

end ReleasePipeline
