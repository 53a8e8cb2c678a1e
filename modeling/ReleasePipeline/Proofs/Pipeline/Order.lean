import Mathlib.Data.List.Infix
import Mathlib.Tactic.IntervalCases
import ReleasePipeline.Proofs.Pipeline.Moments

/-
  This file proves the order of a release.  At every moment
  of a run, and after any number of runs, the record of stages
  is one that a release may have, and the calls made so far
  belong to the stages that have been passed: a signer is
  opened once and behind the gate, a repository once and
  behind the signatures, and files are stored in it alone.

  Key definitions include:
    * `Stage.succession`, `Progress.Valid`
    * `Pipeline.Orderly`
    * `Pipeline.Sound`

  Main declarations:
    * `Pipeline.sound_moment`
    * `Pipeline.runs_in_order`
-/

------------------------------------------------------------
-- Records of Stages
------------------------------------------------------------

namespace ReleasePipeline

/- The stages of a release that succeeds. -/
def Stage.succession : List Stage :=
  [.init, .lockChecked, .gatePassed, .signed, .published]

/-
  A record that a release may have: the first stages, or the
  first stages without the last and then one failure.
-/
def Progress.Valid (p : Progress) : Prop :=
  p.history.getLast? = some p.stage ∧
    ((p.history ≠ [] ∧ p.history <+: Stage.succession) ∨
      ∃ passed kind,
        passed ≠ [] ∧ passed <+: Stage.succession ∧
        .published ∉ passed ∧ p.history = passed ++ [.failed kind])

namespace Progress

/- The progress of a run that has passed so many stages. -/
def passing (n : Nat) : Progress where
  stage := Stage.succession.getD (n - 1) .init
  history := Stage.succession.take n

/- A run that has passed some stages and none beyond. -/
theorem valid_passing
    {n : Nat}
    (hSome : 1 ≤ n)
    (hAll : n ≤ 5) :
    (passing n).Valid := by
  refine ⟨?_, .inl ⟨?_, List.take_prefix _ _⟩⟩
  · interval_cases n <;> rfl
  · interval_cases n <;> simp [passing, Stage.succession]

/- A run that has failed before its last stage. -/
theorem valid_failed
    {n : Nat}
    (kind : String)
    (hSome : 1 ≤ n)
    (hNotAll : n ≤ 4) :
    ((passing n).enter (.failed kind)).Valid := by
  refine ⟨by simp [enter],
    .inr ⟨_, kind, ?_, List.take_prefix n _, ?_, rfl⟩⟩
  · interval_cases n <;> simp [Stage.succession]
  · interval_cases n <;> simp [Stage.succession]

theorem mem_passing
    {s : Stage}
    {k n : Nat}
    (hStage : s ∈ Stage.succession.take k)
    (hLate : k ≤ n) :
    s ∈ (passing n).history :=
  (List.take_prefix_take_left hLate).subset hStage

end Progress

------------------------------------------------------------
-- Calls in Their Stages
------------------------------------------------------------

/- Whether a call opens a signer. -/
def Call.opensSigner : Call → Bool
  | .signer _ => true
  | _ => false

/- Whether a call opens a repository. -/
def Call.opensRepository : Call → Bool
  | .repository _ _ => true
  | _ => false

/- The calls made until a moment. -/
def Moment.calls
    {σ : Type}
    (m : Moment (Recorded σ)) : List Call :=
  m.world.outside.calls

namespace Pipeline

/-
  Calls that go with the stages passed.  A file is stored only
  behind the call that opens the repository.
-/
structure Orderly
    (plan : ReleasePlan)
    (progress : Progress)
    (calls : List Call) : Prop where
  valid : progress.Valid
  signer_once : calls.countP Call.opensSigner ≤ 1
  signer_late :
    ∀ c, .signer c ∈ calls → .gatePassed ∈ progress.history
  repository_once : calls.countP Call.opensRepository ≤ 1
  repository_late :
    ∀ target timeout, .repository target timeout ∈ calls →
      .signed ∈ progress.history ∧
      plan.router.route plan.version = .ok target
  put_late :
    ∀ before path bytes after,
      calls = before ++ .put path bytes :: after →
      ∃ target timeout, .repository target timeout ∈ before

/-
  Calls that may be made while the record of stages is the
  given one.
-/
structure MayFollow
    (plan : ReleasePlan)
    (history : List Stage)
    (made : List Call) : Prop where
  signer : ∀ c, .signer c ∈ made → .gatePassed ∈ history
  repository :
    ∀ target timeout, .repository target timeout ∈ made →
      .signed ∈ history ∧
      plan.router.route plan.version = .ok target
  put : ∀ path bytes, .put path bytes ∈ made → .signed ∈ history

/- Every call of a release that signs and publishes. -/
def fullScript
    (plan : ReleasePlan)
    (c : Credential)
    (artifacts : ArtifactSet)
    (target : PublishTarget)
    (r : SignedRelease) : List Call :=
  .graph :: (signScript plan c artifacts ++ publishScript plan target r)

/-
  The calls that a release may have made when it has passed so
  many stages.
-/
def Allowed
    (plan : ReleasePlan)
    (passed : Nat)
    (calls : List Call) : Prop :=
  calls <+: [.graph] ∨
    (3 ≤ passed ∧ ∃ c artifacts,
      calls <+: .graph :: signScript plan c artifacts) ∨
    (4 ≤ passed ∧ ∃ c artifacts target r,
      plan.router.route plan.version = .ok target ∧
      calls <+: fullScript plan c artifacts target r)

------------------------------------------------------------
-- What Holds at Every Moment
------------------------------------------------------------

variable {σ α : Type}
variable {h : Host σ} {b : Backend σ}
variable {p : Pipeline (Recorded σ)}
variable {plan : ReleasePlan}

/-
  The task that is next tells which stages have been passed
  and which calls have been made.
-/
def Sound
    (plan : ReleasePlan)
    (m : Moment (Recorded σ)) : Prop :=
  match m.task with
  | .checkLock => m.progress = .passing 1 ∧ m.calls = []
  | .assemble => m.progress = .passing 2 ∧ m.calls = [.graph]
  | .passGate _ => m.progress = .passing 2 ∧ m.calls = [.graph]
  | .select _ => m.progress = .passing 3 ∧ m.calls = [.graph]
  | .sign _ _ => m.progress = .passing 3 ∧ m.calls = [.graph]
  | .publish _ _ =>
      m.progress = .passing 4 ∧
        ∃ c artifacts, m.calls = .graph :: signScript plan c artifacts
  | .finished (.ok _) =>
      m.progress = .passing 5 ∧
        ∃ c artifacts target r,
          plan.router.route plan.version = .ok target ∧
          m.calls = fullScript plan c artifacts target r
  | .finished (.error f) =>
      ∃ n, 1 ≤ n ∧ n ≤ 4 ∧
        m.progress =
          (Progress.passing n).enter (.failed (failureKind f)) ∧
        Allowed plan n m.calls

/-
  A task keeps a run sound if its script belongs to the stages
  passed, if the moment behind the whole script is sound, and
  if a failure within the script is allowed.
-/
theorem sound_after
    {a : Action (Recorded σ) α}
    {script : List Call}
    {files : List (String × Bytes)}
    {value : α → Prop}
    (hFollows : a.Follows script files value)
    {n : Nat}
    {entered : List Stage}
    {task : α → Task}
    {w : World (Recorded σ)}
    (hSome : 1 ≤ n)
    (hNotAll : n ≤ 4)
    (hScript : MayFollow plan (Progress.passing n).history script)
    (hFailed :
      ∀ made, made <+: script →
        Allowed plan n (w.outside.calls ++ made))
    (hDone :
      ∀ x (v : World (Recorded σ)), value x →
        v.outside.calls = w.outside.calls ++ script →
        Sound plan
          { task := task x
            progress :=
              entered.foldl Progress.enter (Progress.passing n)
            world := v }) :
    Sound plan
        (Moment.after (Progress.passing n) entered task (a w)) ∧
      ∃ made,
        (Moment.after (Progress.passing n) entered task (a w)).calls =
          w.outside.calls ++ made ∧
        MayFollow plan (Progress.passing n).history made := by
  rcases Action.Follows.after_cases hFollows (Progress.passing n)
      entered task w with
    ⟨made, kept, v, hCalls, -, hMade, -, hCase⟩
  have hMay : MayFollow plan (Progress.passing n).history made :=
    ⟨fun c hc => hScript.signer c (hMade.subset hc),
      fun t s ht => hScript.repository t s (hMade.subset ht),
      fun path bytes hPut => hScript.put path bytes (hMade.subset hPut)⟩
  rcases hCase with ⟨x, hValue, rfl, -, -, hAfter⟩ | ⟨f, hAfter⟩
  · rw [hAfter]
    exact ⟨hDone x v hValue hCalls, made, hCalls, hMay⟩
  · rw [hAfter]
    refine ⟨⟨n, hSome, hNotAll, rfl, ?_⟩, made, hCalls, hMay⟩
    rw [Moment.calls, hCalls]
    exact hFailed made hMade

theorem mayFollow_nil (history : List Stage) :
    MayFollow plan history [] :=
  ⟨nofun, nofun, nofun⟩

theorem mayFollow_graph (history : List Stage) :
    MayFollow plan history [.graph] :=
  ⟨by simp, by simp, by simp⟩

theorem mayFollow_signScript
    (c : Credential)
    (artifacts : ArtifactSet)
    {history : List Stage}
    (hGate : .gatePassed ∈ history) :
    MayFollow plan history (signScript plan c artifacts) :=
  ⟨fun _ _ => hGate, by simp [signScript], by simp [signScript]⟩

theorem mayFollow_publishScript
    {target : PublishTarget}
    (hRoute : plan.router.route plan.version = .ok target)
    (r : SignedRelease)
    {history : List Stage}
    (hSigned : .signed ∈ history) :
    MayFollow plan history (publishScript plan target r) := by
  refine ⟨?_, ?_, fun _ _ _ => hSigned⟩
  · intro c hc
    simp [publishScript, UploadFile.call] at hc
  · intro t s ht
    simp only [publishScript, List.mem_cons, List.mem_map,
      UploadFile.call, reduceCtorEq, and_false, exists_false,
      or_false, Call.repository.injEq] at ht
    rw [ht.1]
    exact ⟨hSigned, hRoute⟩

/- Between the lock and the signatures nothing is called. -/
theorem sound_after_silent
    {a : Action (Recorded σ) α}
    {files : List (String × Bytes)}
    {value : α → Prop}
    (hFollows : a.Follows [] files value)
    {n : Nat}
    {entered : List Stage}
    {task : α → Task}
    {w : World (Recorded σ)}
    (hSome : 1 ≤ n)
    (hNotAll : n ≤ 4)
    (hCalls : w.outside.calls = [.graph])
    (hDone :
      ∀ x (v : World (Recorded σ)), v.outside.calls = [.graph] →
        Sound plan
          { task := task x
            progress :=
              entered.foldl Progress.enter (Progress.passing n)
            world := v }) :
    Sound plan
        (Moment.after (Progress.passing n) entered task (a w)) ∧
      ∃ made,
        (Moment.after (Progress.passing n) entered task (a w)).calls =
          w.outside.calls ++ made ∧
        MayFollow plan (Progress.passing n).history made := by
  apply sound_after hFollows hSome hNotAll (mayFollow_nil _)
  · intro made hMade
    rw [hCalls, List.prefix_nil.mp hMade]
    exact .inl List.prefix_rfl
  · intro x v _ hNext
    rw [List.append_nil] at hNext
    exact hDone x v (hNext.trans hCalls)

theorem sound_next
    (hHost : p.host = h.beside)
    (hBackend : p.backend = b.recorded)
    {m : Moment (Recorded σ)}
    (hSound : Sound p.plan m) :
    Sound p.plan (p.next m) ∧
      ∃ made, (p.next m).calls = m.calls ++ made ∧
        MayFollow p.plan m.progress.history made := by
  rcases m with ⟨task, progress, w⟩
  cases task with
  | checkLock =>
      rcases hSound with ⟨rfl, hCalls⟩
      change w.outside.calls = [] at hCalls
      apply sound_after (checkLock_follows hBackend) (by decide)
        (by decide) (mayFollow_graph _)
      · intro made hMade
        rw [hCalls]
        exact .inl hMade
      · intro _ v _ hNext
        rw [hCalls] at hNext
        exact ⟨rfl, hNext⟩
  | assemble =>
      rcases hSound with ⟨rfl, hCalls⟩
      apply sound_after_silent (assemble_follows hHost) (by decide)
        (by decide) hCalls
      exact fun _ v hNext => ⟨rfl, hNext⟩
  | passGate artifacts =>
      rcases hSound with ⟨rfl, hCalls⟩
      apply sound_after_silent passGate_follows (by decide)
        (by decide) hCalls
      exact fun _ v hNext => ⟨rfl, hNext⟩
  | select artifacts =>
      rcases hSound with ⟨rfl, hCalls⟩
      apply sound_after_silent credential_follows (by decide)
        (by decide) hCalls
      exact fun _ v hNext => ⟨rfl, hNext⟩
  | sign artifacts c =>
      rcases hSound with ⟨rfl, hCalls⟩
      change w.outside.calls = [.graph] at hCalls
      apply sound_after (sign_follows hBackend c artifacts)
        (by decide) (by decide)
        (mayFollow_signScript c artifacts (by decide))
      · intro made hMade
        rw [hCalls]
        exact .inr (.inl ⟨by decide, c, artifacts,
          (List.prefix_cons_inj _).mpr hMade⟩)
      · intro r v _ hNext
        rw [hCalls] at hNext
        exact ⟨rfl, c, artifacts, hNext⟩
  | publish r mode =>
      rcases hSound with ⟨rfl, c, artifacts, hCalls⟩
      change w.outside.calls = _ at hCalls
      cases hRoute : p.plan.router.route p.plan.version with
      | error f =>
          apply sound_after (publish_follows_of_no_target hRoute)
            (by decide) (by decide) (mayFollow_nil _)
          · intro made hMade
            rw [hCalls, List.prefix_nil.mp hMade, List.append_nil]
            exact .inr (.inl ⟨by decide, c, artifacts,
              List.prefix_rfl⟩)
          · exact fun _ _ hNever => hNever.elim
      | ok target =>
          apply sound_after (publish_follows hBackend hRoute r mode)
            (by decide) (by decide)
            (mayFollow_publishScript hRoute r (by decide))
          · intro made hMade
            rw [hCalls]
            exact .inr (.inr ⟨by decide, c, artifacts, target, r,
              hRoute, (List.prefix_cons_inj _).mpr
                ((List.prefix_append_right_inj _).mpr hMade)⟩)
          · intro receipt v _ hNext
            rw [hCalls] at hNext
            exact ⟨rfl, c, artifacts, target, r, hRoute, hNext⟩
  | finished result =>
      exact ⟨hSound, [], (List.append_nil _).symm, mayFollow_nil _⟩

------------------------------------------------------------
-- From Soundness to Order
------------------------------------------------------------

/-
  What comes first in a list is in front of what does not come
  before it.
-/
theorem mem_of_append_eq
    {α : Type}
    {before after front back : List α}
    {x first : α}
    (hList : before ++ x :: after = front ++ first :: back)
    (hFront : x ∉ front)
    (hFirst : x ≠ first) :
    first ∈ before := by
  rcases List.append_eq_append_iff.mp hList with
    ⟨more, rfl, hMore⟩ | ⟨more, rfl, hMore⟩
  · cases more with
    | nil =>
        simp only [List.nil_append, List.cons.injEq] at hMore
        exact absurd hMore.1 hFirst
    | cons y more =>
        simp only [List.cons_append, List.cons.injEq] at hMore
        exact absurd (by simp [hMore.1]) hFront
  · cases more with
    | nil =>
        simp only [List.nil_append, List.cons.injEq] at hMore
        exact absurd hMore.1.symm hFirst
    | cons y more =>
        simp only [List.cons_append, List.cons.injEq] at hMore
        simp [hMore.1]

/- The first calls of an orderly script are in order. -/
theorem Orderly.shorten
    {progress : Progress}
    {script calls : List Call}
    (hScript : Orderly plan progress script)
    (hCalls : calls <+: script) :
    Orderly plan progress calls := by
  rcases hCalls with ⟨more, rfl⟩
  have hMem : ∀ {c}, c ∈ calls → c ∈ calls ++ more :=
    fun hc => List.mem_append_left more hc
  refine ⟨hScript.valid, ?_, fun c hc => hScript.signer_late c (hMem hc),
    ?_, fun t s ht => hScript.repository_late t s (hMem ht), ?_⟩
  · exact (List.prefix_append calls more).sublist.countP_le.trans
      hScript.signer_once
  · exact (List.prefix_append calls more).sublist.countP_le.trans
      hScript.repository_once
  · rintro before path bytes after rfl
    exact hScript.put_late before path bytes (after ++ more) (by simp)

theorem orderly_graph
    {progress : Progress}
    (hValid : progress.Valid) :
    Orderly plan progress [.graph] := by
  refine ⟨hValid, by decide, by simp, by decide, by simp, ?_⟩
  intro before path bytes after hList
  have hPut : Call.put path bytes ∈ [Call.graph] := by
    rw [hList]
    simp
  simp at hPut

theorem orderly_signScript
    {progress : Progress}
    (hValid : progress.Valid)
    (hGate : .gatePassed ∈ progress.history)
    (c : Credential)
    (artifacts : ArtifactSet) :
    Orderly plan progress (.graph :: signScript plan c artifacts) := by
  refine ⟨hValid, le_of_eq rfl, fun _ _ => hGate, Nat.zero_le 1,
    by simp [signScript], ?_⟩
  intro before path bytes after hList
  have hPut :
      Call.put path bytes ∈ .graph :: signScript plan c artifacts := by
    rw [hList]
    simp
  simp [signScript] at hPut

/- Uploads open nothing. -/
theorem countP_uploads
    {opens : Call → Bool}
    (hOpens : ∀ path bytes, opens (.put path bytes) = false)
    (files : List UploadFile) :
    (files.map UploadFile.call).countP opens = 0 := by
  rw [List.countP_eq_zero]
  intro call hCall
  rcases List.mem_map.mp hCall with ⟨f, -, rfl⟩
  simp [UploadFile.call, hOpens]

theorem orderly_fullScript
    {progress : Progress}
    (hValid : progress.Valid)
    (hGate : .gatePassed ∈ progress.history)
    (hSigned : .signed ∈ progress.history)
    {target : PublishTarget}
    (hRoute : plan.router.route plan.version = .ok target)
    (c : Credential)
    (artifacts : ArtifactSet)
    (r : SignedRelease) :
    Orderly plan progress
      (fullScript plan c artifacts target r) := by
  have hPublish :=
    mayFollow_publishScript hRoute r hSigned
  refine ⟨hValid, ?_, fun _ _ => hGate, ?_, ?_, ?_⟩
  · rw [fullScript, publishScript, List.countP_cons,
      List.countP_append, List.countP_cons,
      countP_uploads (fun _ _ => rfl)]
    exact le_of_eq rfl
  · rw [fullScript, publishScript, List.countP_cons,
      List.countP_append, List.countP_cons,
      countP_uploads (fun _ _ => rfl)]
    exact le_of_eq rfl
  · intro t s ht
    apply hPublish.repository t s
    simpa [fullScript, signScript] using ht
  · intro before path bytes after hList
    refine ⟨target, plan.timeout, ?_⟩
    apply mem_of_append_eq (hList.symm.trans
      (List.append_assoc [.graph] (signScript plan c artifacts) _).symm)
    · simp [signScript]
    · exact nofun

/-
  Allowed calls are orderly wherever the stages passed are in
  the record.
-/
theorem orderly_of_allowed
    {progress : Progress}
    {n : Nat}
    {calls : List Call}
    (hValid : progress.Valid)
    (hPassed :
      (Progress.passing n).history ⊆ progress.history)
    (hAllowed : Allowed plan n calls) :
    Orderly plan progress calls := by
  have hGate (hLate : 3 ≤ n) : .gatePassed ∈ progress.history :=
    hPassed (Progress.mem_passing (by decide) hLate)
  have hSigned (hLate : 4 ≤ n) : .signed ∈ progress.history :=
    hPassed (Progress.mem_passing (by decide) hLate)
  rcases hAllowed with hCalls | ⟨hLate, c, artifacts, hCalls⟩ |
    ⟨hLate, c, artifacts, target, r, hRoute, hCalls⟩
  · exact (orderly_graph hValid).shorten hCalls
  · exact (orderly_signScript hValid (hGate hLate) c
      artifacts).shorten hCalls
  · exact (orderly_fullScript hValid (hGate (by omega))
      (hSigned hLate) hRoute c artifacts r).shorten hCalls

theorem orderly_passing
    {n : Nat}
    {calls : List Call}
    (hSome : 1 ≤ n)
    (hAll : n ≤ 5)
    (hAllowed : Allowed plan n calls) :
    Orderly plan (.passing n) calls :=
  orderly_of_allowed (Progress.valid_passing hSome hAll)
    (List.Subset.refl _) hAllowed

theorem orderly_passing_graph
    {n : Nat}
    {calls : List Call}
    (hSome : 1 ≤ n)
    (hAll : n ≤ 5)
    (hCalls : calls = [.graph]) :
    Orderly plan (.passing n) calls := by
  rw [hCalls]
  exact orderly_passing hSome hAll (.inl List.prefix_rfl)

/- A sound moment is orderly. -/
theorem orderly_of_sound
    {m : Moment (Recorded σ)}
    (hSound : Sound plan m) :
    Orderly plan m.progress m.calls := by
  rcases m with ⟨task, progress, w⟩
  cases task with
  | checkLock =>
      rcases hSound with ⟨rfl, hCalls⟩
      rw [hCalls]
      exact orderly_passing (by decide) (by decide)
        (.inl List.nil_prefix)
  | assemble =>
      rcases hSound with ⟨rfl, hCalls⟩
      exact orderly_passing_graph (by decide) (by decide) hCalls
  | passGate artifacts =>
      rcases hSound with ⟨rfl, hCalls⟩
      exact orderly_passing_graph (by decide) (by decide) hCalls
  | select artifacts =>
      rcases hSound with ⟨rfl, hCalls⟩
      exact orderly_passing_graph (by decide) (by decide) hCalls
  | sign artifacts c =>
      rcases hSound with ⟨rfl, hCalls⟩
      exact orderly_passing_graph (by decide) (by decide) hCalls
  | publish r mode =>
      rcases hSound with ⟨rfl, c, artifacts, hCalls⟩
      rw [hCalls]
      exact orderly_passing (by decide) (by decide)
        (.inr (.inl ⟨by decide, c, artifacts, List.prefix_rfl⟩))
  | finished result =>
      cases result with
      | ok receipt =>
          rcases hSound with
            ⟨rfl, c, artifacts, target, r, hRoute, hCalls⟩
          rw [hCalls]
          exact orderly_passing (by decide) (by decide)
            (.inr (.inr ⟨by decide, c, artifacts, target, r, hRoute,
              List.prefix_rfl⟩))
      | error f =>
          rcases hSound with ⟨n, hSome, hNotAll, rfl, hAllowed⟩
          exact orderly_of_allowed
            (Progress.valid_failed _ hSome hNotAll)
            (List.subset_append_left _ _) hAllowed

end Pipeline

------------------------------------------------------------
-- A Small Release
------------------------------------------------------------

namespace Sample

/- Metadata in which nothing is missing. -/
def metadata : ReleaseMetadata where
  group := "g"
  artifact := "a"
  version := "1"
  name := "n"
  description := "d"
  url := "u"
  license := { name := "l", url := "u", distribution := "repo" }
  developers := [{ name := "n", email := "e" }]
  scm := { connection := "c", developerConnection := "d", url := "u" }

/- A local repository that asks for credentials, and has them. -/
def endpoint : Endpoint where
  url := "/r"
  usernameEnv := "u"
  passwordEnv := "v"
  username := some ⟨"x"⟩
  password := some ⟨"x"⟩

/- A release of three outputs that are there already. -/
def plan : ReleasePlan where
  root := "/p"
  version := ⟨"1", by decide⟩
  metadata := metadata
  lockSnapshot := "/p/l"
  quality :=
    { sources := ["s"], maxLineLength := 9, header := none
      forbidden := [], suppressions := [] }
  signing :=
    { keyEnv := "k", passphraseEnv := "w", key := none
      passphrase := none, program := "gpg"
      agent := some { program := "gpg", keyId := none } }
  router :=
    { markers := ["-S"], snapshot := endpoint, release := endpoint }
  artifacts :=
    { binary := { path := "b.jar", build := [] }
      sources := { path := "s", build := [] }
      docs := { path := "d", build := [] } }
  timeout := 1

/- A host on which every program prints a line of armor. -/
def host : Host Unit where
  start _ w :=
    (.ok { status := 0, output := Utf8.encode Keyring.armorLine
           errors := [] }, w)
  request _ w :=
    (.ok { status := 200, phrase := "OK", body := .ok [] }, w)
  clock _ := "now"

/- A workspace without dependencies. -/
def backend : Backend Unit where
  resolvedGraph := pure ResolvedGraph.empty
  signer := Signer.forCredential host
  repository := Repository.openTarget host

/- The files of the release, and an empty repository. -/
def world : World (Recorded Unit) where
  tree :=
    { entries :=
        [(["p"], .directory), (["r"], .directory),
          (["p", "l"], .file (Utf8.encode "version=1\n")),
          (["p", "s"], .file []), (["p", "d"], .file []),
          (["p", "b.jar"], .file [])]
      workingDirectory := [] }
  outside := { calls := [], outside := () }

/- The release before it is run. -/
def pipeline : Pipeline (Recorded Unit) where
  plan := plan
  host := host.beside
  backend := backend.recorded
  progress := .start

/- The metadata of the release passes its check. -/
theorem ofPlan_eq :
    Pipeline.ofPlan plan host.beside backend.recorded =
      .ok pipeline := rfl

end Sample

namespace Pipeline

variable {σ α : Type}
variable {h : Host σ} {b : Backend σ}
variable {p : Pipeline (Recorded σ)}
variable {plan : ReleasePlan}

------------------------------------------------------------
-- Runs
------------------------------------------------------------

/- All moments of a fresh pipeline's run are sound. -/
theorem sound_moment
    (hPlan : ofPlan plan h.beside b.recorded = .ok p)
    {w : World (Recorded σ)}
    (hFresh : w.outside.calls = [])
    (n : Nat) :
    Sound plan (p.moment w n) := by
  rcases ofPlan_fields hPlan with ⟨rfl, hHost, hBackend, hProgress⟩
  apply moment_invariant
  · exact ⟨hProgress, hFresh⟩
  · exact fun m hSound => (sound_next hHost hBackend hSound).1

/- The stage in which a run with an outcome ends. -/
def lastStage : Except Fault Receipt → Stage
  | .ok _ => .published
  | .error f => .failed (failureKind f)

/- The end of a sound run is the stage of its outcome. -/
theorem stage_of_finished
    {m : Moment (Recorded σ)}
    {result : Except Fault Receipt}
    (hSound : Sound plan m)
    (hTask : m.task = .finished result) :
    m.progress.stage = lastStage result ∧
      m.progress.history.getLast? = some (lastStage result) := by
  rcases m with ⟨task, progress, w⟩
  cases hTask
  cases result with
  | ok receipt =>
      rcases hSound with ⟨rfl, -⟩
      exact ⟨rfl, rfl⟩
  | error f =>
      rcases hSound with ⟨n, -, -, rfl, -⟩
      exact ⟨rfl, by simp [Progress.enter, lastStage]⟩

/- After the first run, further runs leave all as it is. -/
theorem again_succ
    {q : Pipeline σ}
    {w : World σ}
    (hMade : (q.run w).2.1.progress.stage ≠ .init)
    (n : Nat) :
    q.again w (n + 1) = (q.run w).2 := by
  induction n with
  | zero => rfl
  | succ n ih =>
      rcases run_of_made hMade (q.run w).2.2 with ⟨f, hRun⟩
      rw [again, ih, hRun]

/-
  Every moment of a run and every state between runs is
  orderly.  The calls between two moments belong to the
  stages that were in the record before them.  The first run
  succeeds if it ends in the last stage and fails otherwise;
  every later run is refused and changes nothing at all.
-/
theorem runs_in_order
    (hPlan : ofPlan plan h.beside b.recorded = .ok p)
    {w : World (Recorded σ)}
    (hFresh : w.outside.calls = []) :
    (∀ n, Orderly plan (p.moment w n).progress (p.moment w n).calls ∧
      ∃ made,
        (p.moment w (n + 1)).calls = (p.moment w n).calls ++ made ∧
        MayFollow plan (p.moment w n).progress.history made) ∧
    (∃ result,
      (p.moment w 6).task = .finished result ∧
      p.run w =
        (result, { p with progress := (p.moment w 6).progress },
          (p.moment w 6).world)) ∧
    ((∃ receipt, (p.run w).1 = .ok receipt) ↔
      (p.run w).2.1.progress.history.getLast? = some .published) ∧
    (∀ f, (p.run w).1 = .error f →
      (p.run w).2.1.progress.history.getLast? =
        some (.failed (failureKind f))) ∧
    (∀ n, Orderly plan (p.again w n).1.progress
      (p.again w n).2.outside.calls) ∧
    ∀ n, ∃ f,
      (p.again w (n + 1)).1.run (p.again w (n + 1)).2 =
        (.error f, p.again w (n + 1)) := by
  have hSound (n : Nat) : Sound plan (p.moment w n) :=
    sound_moment hPlan hFresh n
  rcases ofPlan_fields hPlan with ⟨rfl, hHost, hBackend, hProgress⟩
  have hInit : p.progress.stage = .init := by
    rw [hProgress]
    rfl
  rcases run_eq_moment hInit w with ⟨result, hTask, hRun⟩
  rcases stage_of_finished (hSound 6) hTask with ⟨hStage, hHistory⟩
  have hMade : (p.run w).2.1.progress.stage ≠ .init := by
    rw [hRun]
    change (p.moment w 6).progress.stage ≠ .init
    rw [hStage]
    cases result <;> exact nofun
  refine ⟨?_, ⟨result, hTask, hRun⟩, ?_, ?_, ?_, ?_⟩
  · intro n
    exact ⟨orderly_of_sound (hSound n),
      (sound_next hHost hBackend (hSound n)).2⟩
  · rw [hRun]
    change _ ↔ (p.moment w 6).progress.history.getLast? = _
    rw [hHistory]
    cases result with
    | ok receipt => exact ⟨fun _ => rfl, fun _ => ⟨receipt, rfl⟩⟩
    | error f => exact ⟨nofun, nofun⟩
  · intro f hFailed
    rw [hRun] at hFailed ⊢
    cases hFailed
    exact hHistory
  · intro n
    cases n with
    | zero => exact orderly_of_sound (hSound 0)
    | succ n =>
        rw [again_succ hMade, hRun]
        exact orderly_of_sound (hSound 6)
  · intro n
    rw [again_succ hMade]
    exact run_of_made hMade _

/- The small release, run three times. -/
theorem sample_runs_in_order :
    ofPlan Sample.plan Sample.host.beside Sample.backend.recorded =
        .ok Sample.pipeline ∧
      Sample.world.outside.calls = [] ∧
      Orderly Sample.plan (Sample.pipeline.again Sample.world 3).1.progress
        (Sample.pipeline.again Sample.world 3).2.outside.calls ∧
      ∃ f,
        (Sample.pipeline.again Sample.world 2).1.run
            (Sample.pipeline.again Sample.world 2).2 =
          (.error f, Sample.pipeline.again Sample.world 2) := by
  have hOrder :=
    runs_in_order Sample.ofPlan_eq (w := Sample.world) rfl
  rcases hOrder with ⟨-, -, -, -, hAgain, hRefused⟩
  exact ⟨Sample.ofPlan_eq, rfl, hAgain 3, hRefused 1⟩

end Pipeline

end ReleasePipeline
