import ReleasePipeline.Proofs.Config.Validation
import ReleasePipeline.Proofs.Files.Path
import ReleasePipeline.Proofs.Publish.Routing
import ReleasePipeline.Proofs.Text.Slashes
import ReleasePipeline.Publish.Repository

/-
  This file proves what becomes of the address of a repository
  when the slashes at its end are dropped.  It names the same
  directory as before, or none as before, but for two kinds of
  addresses: those that name a directory only because of the
  slashes, and those that name none only because of them.

  Key definitions include:
    * `Repository.Opens`
    * `Repository.NamesDirectory`
    * `Repository.LocalBySlashes`, `Repository.RemoteBySlashes`
    * `Repository.SamePlace`

  Main declarations:
    * `Path.components_append_slashes`
    * `Repository.localPath?_eq_some_iff`
    * `Repository.samePlace_dropTrailingSlashes_iff`
    * `Config.keeps_place_unless_slashes`
-/

------------------------------------------------------------
-- Slashes at the End of a Path
------------------------------------------------------------

namespace ReleasePipeline

/- Slashes behind a path add no component to it. -/
theorem Path.components_append_slashes
    {p : String}
    (hSome : p ≠ "")
    (n : Nat) :
    components (p ++ Text.slashes n) = components p := by
  have hChars : p.toList ≠ [] := mt String.toList_eq_nil_iff.mp hSome
  rcases exists_body hChars with ⟨lead, body, -, hSelf, hPieces⟩
  have hMore :
      rawPieces (p ++ Text.slashes n) =
        rawPieces p ++ List.replicate n [] := by
    rw [hPieces, hSelf, Text.slashes, String.toList_ofList,
      Text.splitAt_append_replicate]
  have hHead :
      (rawPieces p ++ List.replicate n []).head? =
        (rawPieces p).head? := by
    rw [hSelf]
    cases hSplit : Text.splitAt '/' body with
    | nil => exact absurd hSplit (Text.splitAt_ne_nil '/' body)
    | cons piece pieces => rfl
  have hIdle :
      (List.replicate n []).filterMap pieceComponent = [] := by
    rw [List.filterMap_replicate]
    rfl
  unfold components startsHere
  rw [isAbsolute_append hChars, hMore, hHead, List.filterMap_append,
    hIdle, List.append_nil]

------------------------------------------------------------
-- Addresses of Directories
------------------------------------------------------------

namespace Repository

/-
  How a path begins: with some characters, and behind them
  with a number of slashes.
-/
inductive Opens : List Char → Nat → Prop where
  | root : Opens [] 1
  | here : Opens ['.'] 1
  | up : Opens ['.', '.'] 1
  | share : Opens ['\\', '\\'] 0
  | drive
      {letter : Char}
      (hLetter : letter.isAlpha = true) :
      Opens [letter, ':'] 1
  | windowsDrive
      {letter : Char}
      (hLetter : letter.isAlpha = true) :
      Opens [letter, ':', '\\'] 0

theorem Opens.getLast?_ne
    {start : List Char}
    {k : Nat}
    (hOpens : Opens start k) :
    start.getLast? ≠ some '/' := by
  cases hOpens <;> simp

theorem Opens.eq_zero_or_eq_one
    {start : List Char}
    {k : Nat}
    (hOpens : Opens start k) :
    k = 0 ∨ k = 1 := by
  cases hOpens <;> simp

theorem startsWithDrive_iff {cs : List Char} :
    startsWithDrive cs = true ↔
      ∃ letter : Char,
        letter.isAlpha = true ∧
          ([letter, ':', '\\'] <+: cs ∨ [letter, ':', '/'] <+: cs) := by
  constructor
  · intro hDrive
    unfold startsWithDrive at hDrive
    split at hDrive
    · next letter separator cs =>
        simp only [Bool.and_eq_true, Bool.or_eq_true,
          beq_iff_eq] at hDrive
        rcases hDrive with ⟨hLetter, rfl | rfl⟩
        · exact ⟨letter, hLetter, .inl ⟨cs, rfl⟩⟩
        · exact ⟨letter, hLetter, .inr ⟨cs, rfl⟩⟩
    · cases hDrive
  · rintro ⟨letter, hLetter, ⟨cs, rfl⟩ | ⟨cs, rfl⟩⟩
    · exact Bool.and_eq_true_iff.mpr ⟨hLetter, rfl⟩
    · exact Bool.and_eq_true_iff.mpr ⟨hLetter, rfl⟩

theorem isPathLike_iff {url : String} :
    isPathLike url = true ↔
      ∃ start k,
        Opens start k ∧
          start ++ List.replicate k '/' <+: url.toList := by
  simp only [isPathLike, Bool.or_eq_true, Text.startsWith_iff,
    startsWithDrive_iff]
  constructor
  · rintro ((((hHere | hUp) | hShare) |
      ⟨letter, hLetter, hBack | hDrive⟩) | hRoot)
    · exact ⟨_, _, .here, hHere⟩
    · exact ⟨_, _, .up, hUp⟩
    · exact ⟨_, _, .share, hShare⟩
    · exact ⟨_, _, .windowsDrive hLetter, hBack⟩
    · exact ⟨_, _, .drive hLetter, hDrive⟩
    · exact ⟨_, _, .root, hRoot⟩
  · rintro ⟨start, k, hOpens, hPrefix⟩
    cases hOpens with
    | root => exact .inr hPrefix
    | here => exact .inl (.inl (.inl (.inl hPrefix)))
    | up => exact .inl (.inl (.inl (.inr hPrefix)))
    | share => exact .inl (.inl (.inr hPrefix))
    | drive hLetter => exact .inl (.inr ⟨_, hLetter, .inr hPrefix⟩)
    | windowsDrive hLetter =>
        exact .inl (.inr ⟨_, hLetter, .inl hPrefix⟩)

/- An address and the local directory that it names. -/
inductive NamesDirectory : String → String → Prop where
  | scheme
      {directory : String}
      (hSome : directory ≠ "") :
      NamesDirectory (fileScheme ++ directory) directory
  | path
      {url : String}
      (hPlain : Text.contains url "://" = false)
      (hPath : isPathLike url = true) :
      NamesDirectory url url

variable {url directory : String}

/- Behind the scheme stands the directory. -/
theorem localPath?_scheme (directory : String) :
    localPath? (fileScheme ++ directory) =
      if directory = "" then none else some directory := by
  have hStarts :
      Text.startsWith (fileScheme ++ directory) fileScheme = true := by
    rw [Text.startsWith_iff, String.toList_append]
    exact List.prefix_append _ _
  have hRest :
      (fileScheme ++ directory).toList.drop fileScheme.length =
        directory.toList := by
    rw [String.toList_append]
    rfl
  unfold localPath?
  rw [if_pos hStarts, hRest, String.ofList_toList]

theorem contains_of_fileScheme
    (hScheme : Text.startsWith url fileScheme = true) :
    Text.contains url "://" = true := by
  have hMark : "://".toList <:+: fileScheme.toList :=
    ⟨"file".toList, [], rfl⟩
  rw [Text.contains_iff]
  exact hMark.trans (Text.startsWith_iff.mp hScheme).isInfix

theorem localPath?_eq_some_iff :
    localPath? url = some directory ↔ NamesDirectory url directory := by
  constructor
  · intro hLocal
    by_cases hScheme : Text.startsWith url fileScheme = true
    · rcases Text.exists_append_of_startsWith hScheme with ⟨rest, rfl⟩
      rw [localPath?_scheme] at hLocal
      split at hLocal
      · cases hLocal
      · next hSome =>
          cases hLocal
          exact .scheme hSome
    · unfold localPath? at hLocal
      rw [if_neg hScheme] at hLocal
      split at hLocal
      · cases hLocal
      · next hPlain =>
          split at hLocal
          · next hPath =>
              cases hLocal
              exact .path (Bool.eq_false_iff.mpr hPlain) hPath
          · cases hLocal
  · intro hNames
    cases hNames with
    | scheme hSome => rw [localPath?_scheme, if_neg hSome]
    | path hPlain hPath =>
        have hScheme : ¬ Text.startsWith url fileScheme = true := by
          intro hScheme
          rw [contains_of_fileScheme hScheme] at hPlain
          cases hPlain
        unfold localPath?
        rw [if_neg hScheme, hPlain, if_neg Bool.false_ne_true,
          if_pos hPath]

------------------------------------------------------------
-- Slashes at the End of an Address
------------------------------------------------------------

/-
  The addresses that name a directory only because of slashes
  at their end.
-/
inductive LocalBySlashes : String → Prop where
  | root (n : Nat) : LocalBySlashes ("" ++ Text.slashes (n + 1))
  | here (n : Nat) : LocalBySlashes ("." ++ Text.slashes (n + 1))
  | up (n : Nat) : LocalBySlashes (".." ++ Text.slashes (n + 1))
  | drive
      {letter : Char}
      (hLetter : letter.isAlpha = true) :
      LocalBySlashes (String.ofList [letter, ':'] ++ Text.slashes 1)
  | scheme (n : Nat) :
      LocalBySlashes ("file:" ++ Text.slashes (n + 3))

/-
  The addresses of which slashes at the end make a scheme, so
  that they name no directory.
-/
inductive RemoteBySlashes : String → Prop where
  | scheme
      {bare : String}
      (hPlain : Text.contains bare "://" = false)
      (hPath : isPathLike bare = true)
      (hColon : [':'] <:+ bare.toList)
      (n : Nat) :
      RemoteBySlashes (bare ++ Text.slashes (n + 2))

section Bare

variable {bare : String} (hBare : bare.toList.getLast? ≠ some '/')
variable {n : Nat}

include hBare

theorem contains_append_slashes_iff :
    Text.contains (bare ++ Text.slashes n) "://" = true ↔
      Text.contains bare "://" = true ∨
        [':'] <:+ bare.toList ∧ 2 ≤ n := by
  have hColon : [':'].getLast? ≠ some '/' := by decide
  rw [Text.contains_iff, Text.contains_iff, Text.toList_append_slashes]
  exact Text.infix_append_slashes_iff (List.cons_ne_nil _ _) hColon
    hBare 2 n

/- With slashes behind it, an address may become a path. -/
theorem isPathLike_append_slashes_iff :
    isPathLike (bare ++ Text.slashes n) = true ↔
      isPathLike bare = true ∨ Opens bare.toList 1 ∧ 1 ≤ n := by
  rw [isPathLike_iff, isPathLike_iff, Text.toList_append_slashes]
  constructor
  · rintro ⟨start, k, hOpens, hPrefix⟩
    rcases (Text.prefix_append_slashes_iff hOpens.getLast?_ne hBare
        k n).mp hPrefix with
      hInside | ⟨rfl, hLength⟩
    · exact .inl ⟨start, k, hOpens, hInside⟩
    · rcases hOpens.eq_zero_or_eq_one with rfl | rfl
      · exact .inl ⟨_, 0, hOpens, by simp⟩
      · exact .inr ⟨hOpens, hLength⟩
  · rintro (⟨start, k, hOpens, hPrefix⟩ | ⟨hOpens, hLength⟩)
    · exact ⟨start, k, hOpens, hPrefix.trans (List.prefix_append _ _)⟩
    · exact ⟨_, 1, hOpens,
        (Text.prefix_append_slashes_iff hBare hBare 1 n).mpr
          (.inr ⟨rfl, hLength⟩)⟩

theorem startsWith_append_slashes_iff :
    Text.startsWith (bare ++ Text.slashes n) fileScheme = true ↔
      Text.startsWith bare fileScheme = true ∨
        bare = "file:" ∧ 2 ≤ n := by
  have hFile : "file:".toList.getLast? ≠ some '/' := by decide
  rw [Text.startsWith_iff, Text.startsWith_iff,
    Text.toList_append_slashes, ← String.toList_inj]
  exact Text.prefix_append_slashes_iff hFile hBare 2 n

/-
  What an address names, it names without the slashes at its
  end, or it names it because of them.
-/
theorem NamesDirectory.of_append_slashes
    (hNames : NamesDirectory (bare ++ Text.slashes n) directory) :
    (∃ d,
      NamesDirectory bare d ∧
        Path.components directory = Path.components d) ∨
    LocalBySlashes (bare ++ Text.slashes n) := by
  generalize hUrl : bare ++ Text.slashes n = url at hNames
  cases hNames with
  | scheme hSome =>
      have hScheme :
          Text.startsWith (bare ++ Text.slashes n) fileScheme = true := by
        rw [hUrl, Text.startsWith_iff, String.toList_append]
        exact List.prefix_append _ _
      rw [← hUrl]
      rcases (startsWith_append_slashes_iff hBare).mp hScheme with
        hInside | ⟨rfl, hLength⟩
      · rcases Text.exists_append_of_startsWith hInside with ⟨rest, rfl⟩
        rw [String.append_assoc, String.append_right_inj] at hUrl
        subst hUrl
        have hRest : rest ≠ "" := by
          rintro rfl
          exact hBare rfl
        exact .inl ⟨rest, .scheme hRest,
          Path.components_append_slashes hRest n⟩
      · rcases Nat.exists_eq_add_of_le' hLength with ⟨m, rfl⟩
        cases m with
        | zero =>
            exact absurd
              ((String.append_right_inj fileScheme).mp hUrl).symm hSome
        | succ m => exact .inr (.scheme m)
  | path hPlain hPath =>
      subst hUrl
      rw [Bool.eq_false_iff, Ne, contains_append_slashes_iff hBare,
        not_or] at hPlain
      rcases (isPathLike_append_slashes_iff hBare).mp hPath with
        hPath | ⟨hOpens, hLength⟩
      · have hSome : bare ≠ "" := by
          rintro rfl
          cases hPath
        exact .inl ⟨bare,
          .path (Bool.eq_false_iff.mpr hPlain.1) hPath,
          Path.components_append_slashes hSome n⟩
      · right
        rcases Nat.exists_eq_add_of_le' hLength with ⟨m, rfl⟩
        rw [← String.ofList_toList (s := bare)]
        generalize bare.toList = start at hOpens hPlain
        cases hOpens with
        | root => exact .root m
        | here => exact .here m
        | up => exact .up m
        | @drive letter hLetter =>
            cases m with
            | zero => exact .drive hLetter
            | succ m =>
                have hColon : [':'] <:+ [letter, ':'] := ⟨[letter], rfl⟩
                exact absurd ⟨hColon, by omega⟩ hPlain.2

/-
  What an address names without the slashes at its end, it
  names with them, unless they make a scheme of it.
-/
theorem NamesDirectory.append_slashes
    (hNames : NamesDirectory bare directory) :
    (∃ d, NamesDirectory (bare ++ Text.slashes n) d) ∨
    RemoteBySlashes (bare ++ Text.slashes n) := by
  cases hNames with
  | scheme hSome =>
      left
      refine ⟨directory ++ Text.slashes n, ?_⟩
      rw [String.append_assoc]
      refine .scheme fun hEmpty => hSome ?_
      exact (String.append_eq_empty_iff.mp hEmpty).1
  | path hPlain hPath =>
      by_cases hMark :
          Text.contains (directory ++ Text.slashes n) "://" = true
      · right
        rcases (contains_append_slashes_iff hBare).mp hMark with
          hMark | ⟨hColon, hLength⟩
        · rw [hPlain] at hMark
          cases hMark
        · rcases Nat.exists_eq_add_of_le' hLength with ⟨m, rfl⟩
          exact .scheme hPlain hPath hColon m
      · left
        exact ⟨_, .path (Bool.eq_false_iff.mpr hMark)
          ((isPathLike_append_slashes_iff hBare).mpr (.inl hPath))⟩

/- A path that lacks a slash names a directory with it. -/
theorem namesDirectory_of_opens
    (hOpens : Opens bare.toList 1)
    (hFew : [':'] <:+ bare.toList → n = 0) :
    NamesDirectory (bare ++ Text.slashes (n + 1))
      (bare ++ Text.slashes (n + 1)) := by
  apply NamesDirectory.path
  · rw [Bool.eq_false_iff, Ne, contains_append_slashes_iff hBare,
      not_or]
    constructor
    · intro hMark
      have hLength := (Text.contains_iff.mp hMark).length_le
      generalize bare.toList = start at hOpens hLength
      cases hOpens <;> simp at hLength
    · rintro ⟨hColon, hTwo⟩
      rw [hFew hColon] at hTwo
      simp at hTwo
  · exact (isPathLike_append_slashes_iff hBare).mpr
      (.inr ⟨hOpens, Nat.le_add_left 1 n⟩)

end Bare

/- A path that lacks a slash is lost when it is dropped. -/
theorem exists_bare_of_opens
    {bare : String}
    {n : Nat}
    (hOpens : Opens bare.toList 1)
    (hFew : [':'] <:+ bare.toList → n = 0)
    (hRemote : localPath? bare = none) :
    (∃ d, NamesDirectory (bare ++ Text.slashes (n + 1)) d) ∧
      ∃ bare',
        Text.WithoutSlashes bare' (bare ++ Text.slashes (n + 1)) ∧
          localPath? bare' = none := by
  have hBare := hOpens.getLast?_ne
  exact ⟨⟨_, namesDirectory_of_opens hBare hOpens hFew⟩, bare,
    Text.withoutSlashes_append hBare _, hRemote⟩

/- Without the slashes, the address of a directory names none. -/
theorem LocalBySlashes.exists_bare
    (hLocal : LocalBySlashes url) :
    (∃ d, NamesDirectory url d) ∧
      ∃ bare,
        Text.WithoutSlashes bare url ∧ localPath? bare = none := by
  cases hLocal with
  | root n =>
      exact exists_bare_of_opens .root
        (fun hColon => absurd hColon (by decide)) rfl
  | here n =>
      exact exists_bare_of_opens .here
        (fun hColon => absurd hColon (by decide)) rfl
  | up n =>
      exact exists_bare_of_opens .up
        (fun hColon => absurd hColon (by decide)) rfl
  | @drive letter hLetter =>
      have hSlash : '/' ≠ letter := by
        rintro rfl
        cases hLetter
      refine exists_bare_of_opens ?_ (fun _ => rfl) ?_
      · rw [String.toList_ofList]
        exact .drive hLetter
      · simp [localPath?, fileScheme, Text.startsWith, Text.contains,
          Text.occursIn, isPathLike, startsWithDrive, List.isPrefixOf,
          hSlash]
  | scheme n =>
      have hUrl :
          "file:" ++ Text.slashes (n + 3) =
            fileScheme ++ Text.slashes (n + 1) := by
        apply String.toList_inj.mp
        rw [Text.toList_append_slashes, Text.toList_append_slashes]
        rfl
      have hSome : Text.slashes (n + 1) ≠ "" := by
        rw [Ne, ← String.toList_eq_nil_iff, Text.slashes,
          String.toList_ofList]
        exact List.cons_ne_nil _ _
      refine ⟨⟨Text.slashes (n + 1), ?_⟩, "file:",
        Text.withoutSlashes_append (by decide) _, rfl⟩
      rw [hUrl]
      exact .scheme hSome

/- Without the slashes, the remote address names a directory. -/
theorem RemoteBySlashes.exists_bare
    (hRemote : RemoteBySlashes url) :
    localPath? url = none ∧
      ∃ bare,
        Text.WithoutSlashes bare url ∧ NamesDirectory bare bare := by
  cases hRemote with
  | @scheme bare hPlain hPath hColon n =>
      have hBare : bare.toList.getLast? ≠ some '/' := by
        rcases hColon with ⟨front, hChars⟩
        rw [← hChars, List.getLast?_concat]
        decide
      refine ⟨?_, bare, Text.withoutSlashes_append hBare _,
        .path hPlain hPath⟩
      have hMark :
          Text.contains (bare ++ Text.slashes (n + 2)) "://" = true :=
        (contains_append_slashes_iff hBare).mpr
          (.inr ⟨hColon, Nat.le_add_left 2 n⟩)
      have hScheme :
          ¬ Text.startsWith (bare ++ Text.slashes (n + 2))
              fileScheme = true := by
        intro hScheme
        rcases (startsWith_append_slashes_iff hBare).mp hScheme with
          hInside | ⟨rfl, -⟩
        · rw [contains_of_fileScheme hInside] at hPlain
          cases hPlain
        · cases hPath
      unfold localPath?
      rw [if_neg hScheme, if_pos hMark]

------------------------------------------------------------
-- Places
------------------------------------------------------------

/-
  Two addresses that name no directory, or directories with the
  same components.
-/
def SamePlace (url url' : String) : Prop :=
  Option.Rel (fun d d' => Path.components d = Path.components d')
    (localPath? url) (localPath? url')

theorem samePlace_dropTrailingSlashes_iff (url : String) :
    SamePlace url (Text.dropTrailingSlashes url) ↔
      ¬ LocalBySlashes url ∧ ¬ RemoteBySlashes url := by
  generalize hDropped : Text.dropTrailingSlashes url = bare
  have hWithout : Text.WithoutSlashes bare url :=
    Text.withoutSlashes_iff.mpr hDropped.symm
  rcases hWithout.exists_eq with ⟨n, rfl⟩
  unfold SamePlace
  constructor
  · intro hSame
    constructor
    · intro hLocal
      rcases hLocal.exists_bare with
        ⟨⟨d, hNames⟩, bare', hWithout', hNone⟩
      rw [Text.withoutSlashes_iff, hDropped] at hWithout'
      subst hWithout'
      rw [localPath?_eq_some_iff.mpr hNames, hNone] at hSame
      cases hSame
    · intro hRemote
      rcases hRemote.exists_bare with ⟨hNone, bare', hWithout', hNames⟩
      rw [Text.withoutSlashes_iff, hDropped] at hWithout'
      subst hWithout'
      rw [localPath?_eq_some_iff.mpr hNames, hNone] at hSame
      cases hSame
  · rintro ⟨hLocal, hRemote⟩
    cases hUrl : localPath? (bare ++ Text.slashes n) with
    | some directory =>
        rcases (localPath?_eq_some_iff.mp hUrl).of_append_slashes
            hWithout.bare with
          ⟨d, hNames, hSame⟩ | hLocal'
        · rw [localPath?_eq_some_iff.mpr hNames]
          exact .some hSame
        · exact absurd hLocal' hLocal
    | none =>
        cases hBare : localPath? bare with
        | none => exact .none
        | some directory =>
            rcases (localPath?_eq_some_iff.mp hBare).append_slashes
                hWithout.bare with
              ⟨d, hNames⟩ | hRemote'
            · rw [localPath?_eq_some_iff.mpr hNames] at hUrl
              cases hUrl
            · exact absurd hRemote' hRemote

/-
  A target that is opened where an address says: in the
  directory that it names, or remotely if it names none.
-/
structure OpenedAt
    (target : PublishTarget)
    (url : String) : Prop where
  directory :
    ∀ d,
      localPath? url = some d →
      ∃ d',
        Path.components d = Path.components d' ∧
        ∀ (σ : Type) (h : Host σ) (timeout : Nat),
          forTarget h target timeout = atDirectory d'
  address :
    localPath? url = none →
    ∀ (σ : Type) (h : Host σ) (timeout : Nat),
      forTarget h target timeout = atAddress h target timeout

theorem openedAt_of_samePlace
    {target : PublishTarget}
    (hSame : SamePlace url target.url) :
    OpenedAt target url := by
  unfold SamePlace at hSame
  constructor
  · intro d hUrl
    rw [hUrl] at hSame
    cases hTarget : localPath? target.url with
    | none =>
        rw [hTarget] at hSame
        cases hSame
    | some d' =>
        rw [hTarget] at hSame
        cases hSame with
        | some hComponents =>
            refine ⟨d', hComponents, fun σ h timeout => ?_⟩
            unfold forTarget
            rw [hTarget]
  · intro hUrl σ h timeout
    rw [hUrl] at hSame
    cases hTarget : localPath? target.url with
    | none =>
        unfold forTarget
        rw [hTarget]
    | some d' =>
        rw [hTarget] at hSame
        cases hSame

end Repository

namespace Config

variable {c : Config} {root : String}
variable {asked package : Option String}
variable {env : Environment} {plan : ReleasePlan}

open Repository

/-
  A configured repository and the one in the plan are at the
  same place, and a release is published there, if and only if
  the slashes at the end of the configured address neither make
  it local nor make it remote.  In the first case the place is
  remote in the plan, and in the second one it is local there.
-/
theorem keeps_place_unless_slashes
    (hResolve : c.resolve root asked package env = .ok plan)
    (channel : Channel) :
    (SamePlace (c.channels.endpoint channel).url
        (plan.router.endpoint channel).url ↔
      ¬ LocalBySlashes (c.channels.endpoint channel).url ∧
      ¬ RemoteBySlashes (c.channels.endpoint channel).url) ∧
    (LocalBySlashes (c.channels.endpoint channel).url →
      (∃ d, localPath? (c.channels.endpoint channel).url = some d) ∧
      localPath? (plan.router.endpoint channel).url = none) ∧
    (RemoteBySlashes (c.channels.endpoint channel).url →
      localPath? (c.channels.endpoint channel).url = none ∧
      ∃ d, localPath? (plan.router.endpoint channel).url = some d) ∧
    ∀ target,
      plan.router.route plan.version = .ok target →
      target.channel = channel →
      target.url = (plan.router.endpoint channel).url ∧
      (¬ LocalBySlashes (c.channels.endpoint channel).url →
        ¬ RemoteBySlashes (c.channels.endpoint channel).url →
        OpenedAt target (c.channels.endpoint channel).url) := by
  have hStored :
      (plan.router.endpoint channel).url =
        Text.dropTrailingSlashes (c.channels.endpoint channel).url := by
    rcases resolve_eq_ok_iff.mp hResolve with
      ⟨version, rules, -, -, rfl⟩
    dsimp only [planFor]
    rw [router_endpoint]
    rfl
  have hSame :=
    samePlace_dropTrailingSlashes_iff (c.channels.endpoint channel).url
  rw [← hStored] at hSame
  refine ⟨hSame, ?_, ?_, ?_⟩
  · intro hLocal
    rcases hLocal.exists_bare with ⟨⟨d, hNames⟩, bare, hBare, hNone⟩
    rw [Text.withoutSlashes_iff, ← hStored] at hBare
    rw [← hBare]
    exact ⟨⟨d, localPath?_eq_some_iff.mpr hNames⟩, hNone⟩
  · intro hRemote
    rcases hRemote.exists_bare with ⟨hNone, bare, hBare, hNames⟩
    rw [Text.withoutSlashes_iff, ← hStored] at hBare
    rw [← hBare]
    exact ⟨hNone, bare, localPath?_eq_some_iff.mpr hNames⟩
  · rintro target hRoute rfl
    have hTarget :
        target.url = (plan.router.endpoint target.channel).url := by
      rw [hStored, ← Text.withoutSlashes_iff]
      have hRoutes := routes_of_resolve hResolve
      rcases (hRoutes.ok_iff target).mp hRoute with ⟨hChannel, hUrl, -⟩
      rw [hChannel]
      exact hUrl
    refine ⟨hTarget, fun hLocal hRemote => ?_⟩
    apply openedAt_of_samePlace
    rw [hTarget]
    exact hSame.mpr ⟨hLocal, hRemote⟩

end Config

namespace Sample

/- Repositories in the working directory. -/
def hereDocument : String :=
  "project=[]\nchannels=[[\"-S\"],[\"./\"],[\"./\"]]\n" ++
    "artifacts=[[\"b\"],[\"s\"],[\"d\"]]\n"

def hereConfig : Config :=
  { bareConfig with
    channels :=
      { markers := ["-S"], snapshot := .atUrl "./"
        release := .atUrl "./" } }

theorem parse_hereDocument :
    Config.parse hereDocument = .ok hereConfig :=
  Except.eq_ok_of_toOption (by decide +kernel)

end Sample

/-
  The working directory is lost when it is spelled with the
  slash that makes it local; the directory that the other
  sample publishes to is not.
-/
theorem Config.sample_keeps_place_unless_slashes :
    parse Sample.hereDocument = .ok Sample.hereConfig ∧
    (∃ plan,
      Sample.hereConfig.resolve "/p" (some "1") none
        Sample.environment = .ok plan ∧
      (∃ d, Repository.localPath? "./" = some d) ∧
      Repository.localPath? (plan.router.endpoint .release).url =
        none) ∧
    Sample.config.resolve "/p" none none Sample.environment =
      .ok Sample.jsonPlan ∧
    ∃ target,
      Sample.jsonPlan.router.route Sample.jsonPlan.version =
        .ok target ∧
      Repository.OpenedAt target "/r" := by
  refine ⟨Sample.parse_hereDocument, ?_, Sample.resolve_config, ?_⟩
  · rcases exists_compile Sample.parse_hereDocument with
      ⟨rules, hRules⟩
    have hResolve :
        Sample.hereConfig.resolve "/p" (some "1") none
            Sample.environment =
          .ok (Sample.hereConfig.planFor "/p" Sample.environment
            ⟨"1", by decide⟩ rules) :=
      resolve_eq_ok_iff.mpr ⟨_, rules, rfl, hRules, rfl⟩
    rcases keeps_place_unless_slashes hResolve .release with
      ⟨-, hLost, -, -⟩
    rcases hLost (.here 0) with ⟨hNamed, hRemote⟩
    exact ⟨_, hResolve, hNamed, hRemote⟩
  · rcases keeps_place_unless_slashes Sample.resolve_config
        .release with
      ⟨hSame, -, -, hOpened⟩
    rcases hSame.mp (.some rfl) with ⟨hLocal, hRemote⟩
    rcases hOpened _ rfl rfl with ⟨-, hPlace⟩
    exact ⟨_, rfl, hPlace hLocal hRemote⟩

end ReleasePipeline
