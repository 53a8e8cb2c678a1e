import ReleasePipeline.Lock.Snapshot
import ReleasePipeline.Proofs.Config.Validation

/-
  This file proves which failures to load a file tell where
  the file is.  A configuration and a lock snapshot are loaded
  alike: the failures to read either of them get the path as a
  context, but only those that take up contexts keep it.  A
  fault of the configuration does not, so that a file that was
  read and then refused by a check is not named.

  Key definitions include:
    * `Fault.Names`, `Fault.takesContext`
    * `FileTree.loadWith`
    * `Config.Misplaces`, `LockSnapshot.Misplaces`

  Main declarations:
    * `FileTree.names_of_loadWith`
    * `Config.failsOnly_parse`
    * `LockSnapshot.failsOnly_parse`
    * `Fault.names_unless_refused`
-/

------------------------------------------------------------
-- Failures and Contexts
------------------------------------------------------------

namespace ReleasePipeline

namespace Fault

/- A failure in whose text a path can be read. -/
def Names
    (f : Fault)
    (path : String) : Prop :=
  path.toList <:+: f.message.toList

instance (f : Fault) (path : String) : Decidable (f.Names path) := by
  unfold Names
  infer_instance

/- Whether a failure takes up the contexts that are added to it. -/
def takesContext : Fault → Bool
  | .io _ => true
  | .general _ _ _ => true
  | .config _ => false
  | .release _ => false
  | .metadata _ => false

/- What takes up a context takes up further ones. -/
theorem takesContext_withContext (f : Fault) (context : String) :
    (f.withContext context).takesContext = f.takesContext := by
  cases f with
  | general text inner help => cases inner <;> rfl
  | _ => rfl

theorem withContext_of_not_takesContext
    {f : Fault}
    (hKept : f.takesContext = false)
    (context : String) :
    f.withContext context = f := by
  cases f with
  | io cause => cases hKept
  | general text inner help => cases hKept
  | _ => rfl

/- A context that is taken up can be read in the text. -/
theorem infix_message_withContext
    {f : Fault}
    (hTaken : f.takesContext = true)
    (context : String) :
    context.toList <:+: (f.withContext context).message.toList := by
  cases f with
  | io cause =>
      refine ⟨[], ("\n" ++ s!"I/O error: {cause.message}").toList, ?_⟩
      simp only [withContext, message, String.toList_append,
        List.nil_append, List.append_assoc]
  | general text inner help =>
      cases inner with
      | none =>
          refine ⟨(text ++ "\n").toList, [], ?_⟩
          simp only [withContext, message, String.toList_append,
            List.append_nil]
      | some inner =>
          refine ⟨(text ++ "\n").toList, ("\n" ++ inner).toList, ?_⟩
          simp only [withContext, message, String.toList_append,
            List.append_assoc]
  | config cause => cases hTaken
  | release cause => cases hTaken
  | metadata cause => cases hTaken

theorem names_withContext
    {f : Fault}
    (hTaken : f.takesContext = true)
    (words path : String) :
    (f.withContext (words ++ path)).Names path := by
  have hPath : path.toList <:+: (words ++ path).toList := by
    rw [String.toList_append]
    exact (List.suffix_append words.toList path.toList).isInfix
  exact hPath.trans (infix_message_withContext hTaken _)

end Fault

------------------------------------------------------------
-- Loading
------------------------------------------------------------

/-
  Load a value from a file.  The failures of both steps get a
  context of some words and the path.
-/
def FileTree.loadWith
    {α : Type}
    (t : FileTree)
    (unread refused : String)
    (parse : String → Except Fault α)
    (path : String) : Except Fault α := do
  let text ← ioContext (unread ++ path) (t.readText path)
  withContext (refused ++ path) (parse text)

namespace FileTree

variable {α : Type} {t : FileTree} {unread refused path : String}
variable {parse : String → Except Fault α} {f : Fault}

/- Only a failure that takes no context can hide the path. -/
theorem names_of_loadWith
    (hFails : t.loadWith unread refused parse path = .error f) :
    f.Names path ∨
      ∃ text,
        t.readText path = .ok text ∧
        parse text = .error f ∧
        f.takesContext = false := by
  unfold loadWith at hFails
  cases hRead : t.readText path with
  | error e =>
      rw [hRead] at hFails
      cases hFails
      exact .inl (Fault.names_withContext rfl unread path)
  | ok text =>
      rw [hRead] at hFails
      change withContext (refused ++ path) (parse text) = _ at hFails
      cases hParse : parse text with
      | ok x =>
          rw [hParse] at hFails
          cases hFails
      | error g =>
          rw [hParse] at hFails
          cases hFails
          cases hTaken : g.takesContext with
          | true =>
              exact .inl (Fault.names_withContext hTaken refused path)
          | false =>
              rw [Fault.withContext_of_not_takesContext hTaken]
              exact .inr ⟨text, rfl, hParse, hTaken⟩

/- Such a failure is the same wherever the text was found. -/
theorem loadWith_of_not_takesContext
    {text : String}
    (hRead : t.readText path = .ok text)
    (hParse : parse text = .error f)
    (hKept : f.takesContext = false) :
    t.loadWith unread refused parse path = .error f := by
  unfold loadWith
  rw [hRead]
  change withContext (refused ++ path) (parse text) = _
  rw [hParse]
  change Except.error (f.withContext (refused ++ path)) = _
  rw [Fault.withContext_of_not_takesContext hKept]

end FileTree

------------------------------------------------------------
-- Configurations
------------------------------------------------------------

namespace Config

variable {t : FileTree} {directory path : String} {f : Fault}

theorem load_of_find
    (hFound : find? t directory = some path) :
    load t directory =
      t.loadWith "Failed to read config from " "Invalid config in "
        parse path := by
  unfold load
  rw [hFound]
  rfl

/- The failure to read a pattern takes up contexts. -/
theorem Unreadable.takesContext
    {c : Config}
    (hUnreadable : c.Unreadable f) :
    f.takesContext = true := by
  have hGlob {pattern : String} {g : Fault}
      (hRead : readGlob pattern = .error g) :
      g.takesContext = true := by
    unfold readGlob at hRead
    split at hRead
    · cases hRead
    · cases hRead
      rfl
  have hForbidden {pattern : String} {g : Fault}
      (hRead : readForbidden pattern = .error g) :
      g.takesContext = true := by
    unfold readForbidden at hRead
    split at hRead
    · cases hRead
    · cases hRead
      rfl
  cases hUnreadable with
  | source hMember hRead =>
      rw [Fault.takesContext_withContext]
      exact hGlob hRead
  | suppression hMember hRead =>
      rw [Fault.takesContext_withContext]
      exact hGlob hRead
  | forbidden hMember hRead =>
      rw [Fault.takesContext_withContext]
      exact hForbidden hRead

/-
  A text that was read as a configuration and then refused
  with a fault of the configuration.
-/
def Misplaces
    (text : String)
    (f : Fault) : Prop :=
  ∃ c,
    Toml.decode (ofDatum .lenient) text = .ok c ∧
    validate c = .error f ∧
    f.BlamesConfig

theorem Misplaces.takesContext
    {text : String}
    (hMisplaces : Misplaces text f) :
    f.takesContext = false := by
  rcases hMisplaces with ⟨-, -, -, cause, rfl⟩
  rfl

theorem Misplaces.parse
    {text : String}
    (hMisplaces : Misplaces text f) :
    Config.parse text = .error f := by
  rcases hMisplaces with ⟨c, hRead, hRefused, -⟩
  unfold Config.parse
  rw [hRead]
  change (validate c >>= fun _ => pure c) = _
  rw [hRefused]
  rfl

/- Any other failure to read a configuration takes up contexts. -/
theorem failsOnly_parse (text : String) :
    Except.FailsOnly (parse text)
      fun f => f.takesContext = true ∨ Misplaces text f := by
  intro f hFails
  unfold parse at hFails
  cases hRead : Toml.decode (ofDatum .lenient) text with
  | error g =>
      rw [hRead] at hFails
      cases hFails
      unfold Toml.decode at hRead
      split at hRead
      · cases hRead
      · cases hRead
        exact .inl rfl
  | ok c =>
      rw [hRead] at hFails
      change (validate c >>= fun _ => pure c) = _ at hFails
      cases hValid : validate c with
      | ok u =>
          rw [hValid] at hFails
          cases hFails
      | error g =>
          rw [hValid] at hFails
          cases hFails
          rcases failsOnly_validate c f hValid with
            hBlames | hUnreadable
          · exact .inr ⟨c, hRead, hValid, hBlames⟩
          · exact .inl hUnreadable.takesContext

end Config

------------------------------------------------------------
-- Lock Snapshots
------------------------------------------------------------

namespace LockSnapshot

variable {t : FileTree} {path : String} {f : Fault}

theorem load_of_present
    (hPresent : t.present path = true) :
    load t path =
      t.loadWith "Failed to read lock snapshot "
        "Invalid lock snapshot " parse path := by
  unfold load
  rw [if_pos hPresent]
  rfl

/- The failure to know the format of a snapshot. -/
def unsupported (version : Nat) : Fault :=
  .config (.invalidField "version"
    (s!"unsupported lock format {version} " ++
      s!"(expected {formatVersion})"))

/-
  A text that was read as a lock snapshot and then refused for
  the version of its format.
-/
def Misplaces
    (text : String)
    (f : Fault) : Prop :=
  ∃ version entries,
    Toml.decode fileOfDatum text = .ok (version, entries) ∧
    version ≠ formatVersion ∧
    f = unsupported version

theorem Misplaces.takesContext
    {text : String}
    (hMisplaces : Misplaces text f) :
    f.takesContext = false := by
  rcases hMisplaces with ⟨-, -, -, -, rfl⟩
  rfl

theorem Misplaces.parse
    {text : String}
    (hMisplaces : Misplaces text f) :
    LockSnapshot.parse text = .error f := by
  rcases hMisplaces with ⟨version, entries, hRead, hOther, rfl⟩
  have hUnknown : (version == formatVersion) = false :=
    beq_eq_false_iff_ne.mpr hOther
  unfold LockSnapshot.parse
  rw [hRead]
  change (Checks.ensure (version == formatVersion) _ >>= _) = _
  rw [hUnknown]
  rfl

/- An entry is refused with a failure that takes up contexts. -/
theorem failsOnly_checkEntry (e : LockEntry) :
    Except.FailsOnly (checkEntry e)
      fun f => f.takesContext = true := by
  unfold checkEntry
  split
  · exact Except.failsOnly_ok () _
  · exact Except.failsOnly_error rfl

/- Any other failure to read a snapshot takes up contexts. -/
theorem failsOnly_parse (text : String) :
    Except.FailsOnly (parse text)
      fun f => f.takesContext = true ∨ Misplaces text f := by
  unfold parse
  cases hRead : Toml.decode fileOfDatum text with
  | error g =>
      unfold Toml.decode at hRead
      split at hRead
      · cases hRead
      · cases hRead
        exact Except.failsOnly_error (.inl rfl)
  | ok file =>
      rcases file with ⟨version, entries⟩
      change Except.FailsOnly
        (Checks.ensure (version == formatVersion) _ >>= _) _
      apply Except.FailsOnly.bind
      · cases hKnown : version == formatVersion with
        | true => exact Except.failsOnly_ok () _
        | false =>
            have hOther := beq_eq_false_iff_ne.mp hKnown
            exact Except.failsOnly_error
              (.inr ⟨version, entries, hRead, hOther, rfl⟩)
      · intro _
        apply Except.FailsOnly.bind
        · apply Checks.failsOnly_checkAll
          exact fun e _ f hFails => .inl (failsOnly_checkEntry e f hFails)
        · exact fun _ => Except.failsOnly_ok _ _

end LockSnapshot

------------------------------------------------------------
-- Files That Are Refused
------------------------------------------------------------

/-
  A failure to load a configuration or a lock snapshot that
  exists names the file, unless its text was read and then
  refused: a configuration by a check other than the reading
  of its patterns, a snapshot for the version of its format.
  Then the failure is the same wherever the text is found.
-/
theorem Fault.names_unless_refused
    (t : FileTree)
    (path : String)
    (f : Fault) :
    (∀ directory,
      Config.find? t directory = some path →
      Config.load t directory = .error f →
      f.Names path ∨
        ∃ text,
          t.readText path = .ok text ∧ Config.Misplaces text f) ∧
    (∀ directory text,
      Config.find? t directory = some path →
      t.readText path = .ok text →
      Config.Misplaces text f →
      Config.load t directory = .error f) ∧
    (∀ c : Config,
      c.validate = .error f → ¬ f.BlamesConfig → c.Unreadable f) ∧
    (t.present path = true →
      LockSnapshot.load t path = .error f →
      f.Names path ∨
        ∃ text,
          t.readText path = .ok text ∧
          LockSnapshot.Misplaces text f) ∧
    ∀ text,
      t.present path = true →
      t.readText path = .ok text →
      LockSnapshot.Misplaces text f →
      LockSnapshot.load t path = .error f := by
  refine ⟨?_, ?_, ?_, ?_, ?_⟩
  · intro directory hFound hFails
    rw [Config.load_of_find hFound] at hFails
    refine (FileTree.names_of_loadWith hFails).imp_right ?_
    rintro ⟨text, hRead, hParse, hKept⟩
    refine ⟨text, hRead, ?_⟩
    refine (Config.failsOnly_parse text f hParse).resolve_left ?_
    rw [hKept]
    exact Bool.false_ne_true
  · intro directory text hFound hRead hMisplaces
    rw [Config.load_of_find hFound]
    exact FileTree.loadWith_of_not_takesContext hRead
      hMisplaces.parse hMisplaces.takesContext
  · intro c hFails hOther
    exact (Config.failsOnly_validate c f hFails).resolve_left hOther
  · intro hPresent hFails
    rw [LockSnapshot.load_of_present hPresent] at hFails
    refine (FileTree.names_of_loadWith hFails).imp_right ?_
    rintro ⟨text, hRead, hParse, hKept⟩
    refine ⟨text, hRead, ?_⟩
    refine (LockSnapshot.failsOnly_parse text f hParse).resolve_left ?_
    rw [hKept]
    exact Bool.false_ne_true
  · intro text hPresent hRead hMisplaces
    rw [LockSnapshot.load_of_present hPresent]
    exact FileTree.loadWith_of_not_takesContext hRead
      hMisplaces.parse hMisplaces.takesContext

namespace Sample

/- A configuration without room for any line. -/
def refusedDocument : String :=
  "project=[]\nquality=[\"quay-1\",[\"s\"],[],0]\n" ++
    "artifacts=[[\"b\"],[\"s\"],[\"d\"]]\n"

/- Two directories that have it, and two snapshots of no use. -/
def refusedTree : FileTree where
  entries :=
    [(["p"], .directory), (["q"], .directory),
      (["p", "quay.toml"], .file (Utf8.encode refusedDocument)),
      (["q", ".quay.toml"], .file (Utf8.encode refusedDocument)),
      (["p", "l"], .file (Utf8.encode "version=2\n")),
      (["q", "m"], .file (Utf8.encode "version=2\n"))]
  workingDirectory := []

/- What is said about the configuration. -/
def refusal : Fault :=
  .config (.invalidField "quality.max_line_length"
    "must be greater than zero")

/- A configuration with a pattern that cannot be read. -/
def unreadableConfig : Config :=
  { config with
    quality := { config.quality with forbiddenPatterns := ["("] } }

theorem load_refusedTree :
    Config.load refusedTree "/p" = .error refusal := by
  decide +kernel

theorem loadLock_refusedTree :
    LockSnapshot.load refusedTree "/p/l" =
      .error (LockSnapshot.unsupported 2) := by
  decide +kernel

theorem validate_unreadableConfig :
    unreadableConfig.validate =
      .error (Fault.regex.withContext
        "quality.forbidden_patterns entry '('") := by
  decide +kernel

/- The files of each kind have the same text. -/
theorem readText_refusedTree :
    refusedTree.readText "/q/.quay.toml" =
        refusedTree.readText "/p/quay.toml" ∧
      refusedTree.readText "/q/m" = refusedTree.readText "/p/l" := by
  decide +kernel

end Sample

/- Neither of the sample's directories is told from the other. -/
theorem Fault.sample_names_unless_refused :
    Config.find? Sample.refusedTree "/p" = some "/p/quay.toml" ∧
    Config.load Sample.refusedTree "/p" = .error Sample.refusal ∧
    ¬ Sample.refusal.Names "/p/quay.toml" ∧
    Config.find? Sample.refusedTree "/q" = some "/q/.quay.toml" ∧
    Config.load Sample.refusedTree "/q" = .error Sample.refusal ∧
    (∃ f,
      Sample.unreadableConfig.validate = .error f ∧
        Sample.unreadableConfig.Unreadable f) ∧
    LockSnapshot.load Sample.refusedTree "/p/l" =
      .error (LockSnapshot.unsupported 2) ∧
    ¬ (LockSnapshot.unsupported 2).Names "/p/l" ∧
    LockSnapshot.load Sample.refusedTree "/q/m" =
      .error (LockSnapshot.unsupported 2) := by
  have hFound :
      Config.find? Sample.refusedTree "/p" = some "/p/quay.toml" := by
    decide +kernel
  have hUnnamed : ¬ Sample.refusal.Names "/p/quay.toml" := by
    decide +kernel
  have hOther :
      Config.find? Sample.refusedTree "/q" = some "/q/.quay.toml" := by
    decide +kernel
  rcases Sample.readText_refusedTree with ⟨hSame, hLockSame⟩
  rcases names_unless_refused Sample.refusedTree "/p/quay.toml"
      Sample.refusal with
    ⟨hConfig, -, -, -, -⟩
  rcases names_unless_refused Sample.refusedTree "/q/.quay.toml"
      Sample.refusal with
    ⟨-, hElsewhere, -, -, -⟩
  rcases (hConfig "/p" hFound Sample.load_refusedTree).resolve_left
      hUnnamed with
    ⟨text, hRead, hMisplaces⟩
  have hLockUnnamed :
      ¬ (LockSnapshot.unsupported 2).Names "/p/l" := by
    decide +kernel
  rcases names_unless_refused Sample.refusedTree "/p/l"
      (LockSnapshot.unsupported 2) with
    ⟨-, -, -, hLock, -⟩
  rcases names_unless_refused Sample.refusedTree "/q/m"
      (LockSnapshot.unsupported 2) with
    ⟨-, -, -, -, hOtherLock⟩
  rcases (hLock (by decide +kernel)
      Sample.loadLock_refusedTree).resolve_left hLockUnnamed with
    ⟨lockText, hLockRead, hLockMisplaces⟩
  rcases names_unless_refused Sample.refusedTree "/p/quay.toml"
      (Fault.regex.withContext
        "quality.forbidden_patterns entry '('") with
    ⟨-, -, hPatterns, -, -⟩
  refine ⟨hFound, Sample.load_refusedTree, hUnnamed, hOther,
    hElsewhere "/q" text hOther (hSame.trans hRead) hMisplaces,
    ⟨_, Sample.validate_unreadableConfig,
      hPatterns _ Sample.validate_unreadableConfig ?_⟩,
    Sample.loadLock_refusedTree, hLockUnnamed,
    hOtherLock lockText (by decide +kernel)
      (hLockSame.trans hLockRead) hLockMisplaces⟩
  rintro ⟨cause, hCause⟩
  cases hCause

end ReleasePipeline
