import ReleasePipeline.Command.Checking
import ReleasePipeline.Proofs.Config.Validation
import ReleasePipeline.Proofs.Glob.Components
import ReleasePipeline.Proofs.Quality.Discovery
import ReleasePipeline.Proofs.Text.Slashes

/-
  This file proves when the sources of a project can be looked
  for.  A glob is checked as a whole when it is configured, but
  it is used behind the root and cut at its slashes.  Hence the
  search fails for a glob with a slash inside a set, and for no
  other one, and whatever depends on it fails likewise.

  Key definitions include:
    * `Glob.CutsSet`
    * `Except.SharesGlobFaults`

  Main declarations:
    * `Gate.exists_spells_fullPattern`
    * `Gate.discoverFrom_of_cutsSet`
    * `Gate.sharesGlobFaults_evaluate`
    * `Config.discovers_unless_cutsSet`
-/

------------------------------------------------------------
-- Globs below a Root
------------------------------------------------------------

namespace ReleasePipeline

namespace Glob

/- A glob that is cut inside a set when it is cut at its slashes. -/
def CutsSet (g : String) : Prop :=
  ∃ p, parse g = .ok p ∧ slashInSet p = true

theorem flatMap_escapeChar_replicate (n : Nat) :
    (List.replicate n '/').flatMap escapeChar =
      List.replicate n '/' := by
  induction n with
  | zero => rfl
  | succ n ih =>
      rw [List.replicate_succ, List.flatMap_cons, ih]
      rfl

/- Only a slash is escaped as something that ends in one. -/
theorem getLast?_flatMap_escapeChar
    {cs : List Char}
    (hLast : cs.getLast? ≠ some '/') :
    (cs.flatMap escapeChar).getLast? ≠ some '/' := by
  rcases cs.eq_nil_or_concat' with rfl | ⟨front, c, rfl⟩
  · exact hLast
  · rw [List.getLast?_concat] at hLast
    have hEnd : ∃ d, (escapeChar c).getLast? = some d ∧ d ≠ '/' := by
      unfold escapeChar
      split
      · exact ⟨']', rfl, by decide⟩
      · exact ⟨c, rfl, fun hSlash => hLast (congrArg some hSlash)⟩
    rcases hEnd with ⟨d, hEnd, hOther⟩
    rw [List.flatMap_append, List.flatMap_singleton,
      List.getLast?_append, hEnd]
    exact fun hSlash => hOther (Option.some.inj hSlash)

/- Slashes at the end are dropped before or after escaping. -/
theorem dropTrailingSlashes_escape (root : String) :
    Text.dropTrailingSlashes (escape root) =
      escape (Text.dropTrailingSlashes root) := by
  rcases Text.withoutSlashes_iff.mpr
      (rfl : Text.dropTrailingSlashes root = _) with
    ⟨⟨n, hSlashes⟩, hBare⟩
  symm
  rw [← Text.withoutSlashes_iff]
  constructor
  · refine ⟨n, ?_⟩
    rw [toList_escape, toList_escape, hSlashes, List.flatMap_append,
      flatMap_escapeChar_replicate]
  · rw [toList_escape]
    exact getLast?_flatMap_escapeChar hBare

end Glob

namespace Gate

variable {t : FileTree} {root g : String} {p : Glob.Pattern}

/- Below any root, a glob is read with no other slash in a set. -/
theorem exists_spells_fullPattern
    (hRead : Glob.parse g = .ok p)
    (root : String) :
    ∃ q,
      Glob.Spells true (fullPattern root g).toList q ∧
        Glob.slashInSet q = Glob.slashInSet p := by
  have hText :
      (fullPattern root g).toList =
        (Text.dropTrailingSlashes root).toList.flatMap
          Glob.escapeChar ++ '/' :: g.toList := by
    rw [fullPattern, Glob.dropTrailingSlashes_escape,
      String.toList_append, String.toList_append, Glob.toList_escape,
      List.append_assoc]
    rfl
  rw [hText]
  exact Glob.spells_escape (Glob.parse_eq_ok_iff.mp hRead) _ true

theorem search_of_not_cutsSet
    (hRead : Glob.parse g = .ok p)
    (hWhole : ¬ Glob.CutsSet g)
    (t : FileTree)
    (root : String) :
    ∃ paths, Glob.search t (fullPattern root g) = .ok paths := by
  rcases exists_spells_fullPattern hRead root with ⟨q, hSpells, hSets⟩
  refine Glob.search_of_not_slashInSet hSpells ?_ t
  rw [hSets, ← Bool.not_eq_true]
  exact fun hCut => hWhole ⟨p, hRead, hCut⟩

theorem search_of_cutsSet
    (hCut : Glob.CutsSet g)
    (root : String) :
    ∃ stop, ∀ t : FileTree,
      Glob.search t (fullPattern root g) =
        .error ⟨stop, .brackets⟩ := by
  rcases hCut with ⟨p, hRead, hCut⟩
  rcases exists_spells_fullPattern hRead root with ⟨q, hSpells, hSets⟩
  exact Glob.search_of_slashInSet hSpells (hSets.trans hCut)

------------------------------------------------------------
-- Discovery
------------------------------------------------------------

/-
  The first glob that is cut inside a set ends the search,
  whatever was found before it.
-/
theorem discoverFrom_of_cutsSet
    {patterns : List String}
    (hRead : ∀ g ∈ patterns, ∃ p, Glob.parse g = .ok p)
    (hCut : ∃ g ∈ patterns, Glob.CutsSet g)
    (root : String) :
    ∃ stop, ∀ (t : FileTree) (found : List String),
      discoverFrom t root patterns found =
        .error (.glob ⟨stop, .brackets⟩) := by
  induction patterns with
  | nil =>
      rcases hCut with ⟨g, hMember, -⟩
      cases hMember
  | cons g patterns ih =>
      rcases List.forall_mem_cons.mp hRead with ⟨⟨p, hFirst⟩, hRest⟩
      by_cases hHere : Glob.CutsSet g
      · rcases search_of_cutsSet hHere root with ⟨stop, hSearch⟩
        refine ⟨stop, fun t found => ?_⟩
        rw [discoverFrom, hSearch]
      · have hLater : ∃ g ∈ patterns, Glob.CutsSet g := by
          rcases hCut with ⟨g', hMember, hCut⟩
          rcases List.mem_cons.mp hMember with rfl | hMember
          · exact absurd hCut hHere
          · exact ⟨g', hMember, hCut⟩
        rcases ih hRest hLater with ⟨stop, hFails⟩
        refine ⟨stop, fun t found => ?_⟩
        rcases search_of_not_cutsSet hFirst hHere t root with
          ⟨paths, hSearch⟩
        rw [discoverFrom, hSearch]
        exact hFails t _

end Gate

------------------------------------------------------------
-- Consequences of the Search
------------------------------------------------------------

namespace Except

variable {α β γ : Type}

/-
  Two results of which one is the failure to read a glob
  whenever the other one is the same failure.
-/
def SharesGlobFaults
    (r : Except Fault α)
    (r' : Except Fault β) : Prop :=
  ∀ cause, r = .error (.glob cause) ↔ r' = .error (.glob cause)

theorem SharesGlobFaults.trans
    {r : Except Fault α}
    {r' : Except Fault β}
    {r'' : Except Fault γ}
    (hFirst : SharesGlobFaults r r')
    (hSecond : SharesGlobFaults r' r'') :
    SharesGlobFaults r r'' :=
  fun cause => (hFirst cause).trans (hSecond cause)

/- What follows a result keeps its failures, if it has no such ones. -/
theorem sharesGlobFaults_bind
    {r : Except Fault α}
    {k : α → Except Fault β}
    (hRest :
      ∀ x, FailsOnly (k x) fun f => ∀ cause, f ≠ .glob cause) :
    SharesGlobFaults (r >>= k) r := by
  intro cause
  cases r with
  | error f =>
      change Except.error f = _ ↔ _
      rw [Except.error.injEq, Except.error.injEq]
  | ok x =>
      constructor
      · intro hFails
        exact absurd rfl (hRest x _ hFails cause)
      · exact nofun

end Except

namespace Gate

variable (t : FileTree) (s : RuleSettings) (root : String)

theorem failsOnly_readSource (path : String) :
    Except.FailsOnly (readSource t root path)
      fun f => ∀ cause, f ≠ .glob cause := by
  unfold readSource ioContext
  cases t.read path with
  | ok bytes => exact Except.failsOnly_ok _ _
  | error e => exact Except.failsOnly_error nofun

theorem sharesGlobFaults_report :
    Except.SharesGlobFaults (report t s root) (discover t s root) := by
  apply Except.sharesGlobFaults_bind
  intro paths
  split
  · exact Except.failsOnly_error nofun
  · exact (Except.FailsOnly.mapM (failsOnly_readSource t root)
      paths).bind fun _ => Except.failsOnly_ok _ _

theorem sharesGlobFaults_evaluate :
    Except.SharesGlobFaults (evaluate t s root)
      (discover t s root) := by
  refine Except.SharesGlobFaults.trans ?_
    (sharesGlobFaults_report t s root)
  apply Except.sharesGlobFaults_bind
  intro r
  split
  · exact Except.failsOnly_ok _ _
  · exact Except.failsOnly_error nofun

end Gate

/- The command reports what the gate reports. -/
theorem Program.sharesGlobFaults_checkQuality
    {p : Project}
    {c : Config}
    {rules : RuleSettings}
    (hConfig : p.config = some c)
    (hRules : c.quality.compile = .ok rules)
    (json : Bool)
    (t : FileTree) :
    Except.SharesGlobFaults (checkQuality p false json t)
      (Gate.discover t rules p.root) := by
  refine Except.SharesGlobFaults.trans ?_
    (Gate.sharesGlobFaults_report t rules p.root)
  have hRequired : p.requireConfig = .ok c := by
    unfold Project.requireConfig
    rw [hConfig]
  unfold checkQuality
  rw [hRequired]
  change Except.SharesGlobFaults (c.quality.compile >>= _) _
  rw [hRules]
  apply Except.sharesGlobFaults_bind
  exact fun r => Except.failsOnly_ok _ _

/- A release of the configuration looks for the same sources. -/
theorem Pipeline.sharesGlobFaults_passGate
    {σ : Type}
    {c : Config}
    {rules : RuleSettings}
    {root : String}
    {asked package : Option String}
    {env : Environment}
    {p : Pipeline σ}
    (hRules : c.quality.compile = .ok rules)
    (hResolve : c.resolve root asked package env = .ok p.plan)
    (w : World σ) :
    Except.SharesGlobFaults (p.passGate w).1
      (Gate.discover w.tree rules root) := by
  rcases Config.resolve_eq_ok_iff.mp hResolve with
    ⟨version, rules', -, hRules', hPlan⟩
  rw [hRules] at hRules'
  cases hRules'
  have hGate :
      (p.passGate w).1 = Gate.evaluate w.tree rules root := by
    change Gate.evaluate w.tree p.plan.quality p.plan.root = _
    rw [hPlan]
    rfl
  rw [hGate]
  exact Gate.sharesGlobFaults_evaluate w.tree rules root

------------------------------------------------------------
-- Configured Globs
------------------------------------------------------------

namespace Config

variable {text : String} {c : Config}

theorem exists_parse_of_source
    (hParse : parse text = .ok c) :
    ∀ g ∈ c.quality.sources, ∃ p, Glob.parse g = .ok p := by
  intro g hMember
  rcases exists_readGlob_of_source hParse hMember with ⟨p, hRead⟩
  refine ⟨p, ?_⟩
  unfold readGlob at hRead
  split at hRead
  · next q hGlob =>
      cases hRead
      exact hGlob
  · cases hRead

/-
  With an accepted configuration, the search for the sources
  fails if and only if a configured glob has a slash inside a
  set, and then in the same way for all trees.  The report on
  the sources and the gate of a release fail to read a glob
  whenever the search does.
-/
theorem discovers_unless_cutsSet
    (hParse : parse text = .ok c)
    (root : String) :
    ∃ rules,
      c.quality.compile = .ok rules ∧
      ((∀ g ∈ c.quality.sources, ¬ Glob.CutsSet g) →
        ∀ t, ∃ paths,
          Gate.discover t rules root = .ok paths ∧
          Gate.Collects paths
            (Gate.Matched t root c.quality.sources)) ∧
      ((∃ g ∈ c.quality.sources, Glob.CutsSet g) →
        ∃ stop, ∀ t,
          Gate.discover t rules root =
            .error (.glob ⟨stop, .brackets⟩)) ∧
      (∀ (p : Project) (json : Bool) (t : FileTree),
        p.root = root →
        p.config = some c →
        Except.SharesGlobFaults (Program.checkQuality p false json t)
          (Gate.discover t rules root)) ∧
      ∀ (σ : Type) (p : Pipeline σ) (w : World σ)
          (asked package : Option String) (env : Environment),
        c.resolve root asked package env = .ok p.plan →
        Except.SharesGlobFaults (p.passGate w).1
          (Gate.discover w.tree rules root) := by
  rcases exists_compile hParse with ⟨rules, hRules⟩
  have hRead := exists_parse_of_source hParse
  have hSources := (QualityConfig.compile_eq_ok hRules).1
  rw [← hSources] at hRead ⊢
  refine ⟨rules, hRules, ?_, ?_, ?_, ?_⟩
  · intro hWhole t
    apply Gate.discover_eq_ok
    intro g hMember
    rcases hRead g hMember with ⟨p, hGlob⟩
    exact Gate.search_of_not_cutsSet hGlob (hWhole g hMember) t root
  · intro hCut
    rcases Gate.discoverFrom_of_cutsSet hRead hCut root with
      ⟨stop, hFails⟩
    exact ⟨stop, fun t => hFails t []⟩
  · rintro p json t rfl hConfig
    exact Program.sharesGlobFaults_checkQuality hConfig hRules json t
  · intro σ p w asked package env hResolve
    exact Pipeline.sharesGlobFaults_passGate hRules hResolve w

end Config

namespace Sample

/- Two globs, the second with a slash inside a set. -/
def cutDocument : String :=
  "project=[]\nquality=[\"quay-1\",[\"s\",\"s[/]t\"]]\n" ++
    "artifacts=[[\"b\"],[\"s\"],[\"d\"]]\n"

def cutConfig : Config :=
  { bareConfig with
    quality := { QualityConfig.default with sources := ["s", "s[/]t"] } }

theorem parse_cutDocument : Config.parse cutDocument = .ok cutConfig :=
  Except.eq_ok_of_toOption (by decide +kernel)

end Sample

/-
  With the second glob, no sources are found in any tree; in
  the first sample, which has only the first one, they are.
-/
theorem Config.sample_discovers_unless_cutsSet :
    parse Sample.document = .ok Sample.config ∧
    parse Sample.cutDocument = .ok Sample.cutConfig ∧
    (∃ rules,
      Sample.config.quality.compile = .ok rules ∧
      ∀ t, ∃ paths, Gate.discover t rules "/p" = .ok paths) ∧
    ∃ (stop : Nat) (p : Pipeline (Recorded Unit)),
      Sample.cutConfig.resolve "/p" (some "1") none
        Sample.environment = .ok p.plan ∧
      (∀ w, (p.passGate w).1 = .error (.glob ⟨stop, .brackets⟩)) ∧
      ∀ (json : Bool) (t : FileTree),
        Program.checkQuality ⟨"/p", some Sample.cutConfig, none⟩
            false json t =
          .error (.glob ⟨stop, .brackets⟩) := by
  refine ⟨Sample.parse_document, Sample.parse_cutDocument, ?_, ?_⟩
  · rcases discovers_unless_cutsSet Sample.parse_document "/p" with
      ⟨rules, hRules, hFound, -, -, -⟩
    have hWhole : ∀ g ∈ Sample.config.quality.sources,
        ¬ Glob.CutsSet g := by
      intro g hMember hCut
      cases List.mem_singleton.mp hMember
      rcases hCut with ⟨p, hRead, hCut⟩
      cases hRead
      cases hCut
    refine ⟨rules, hRules, fun t => ?_⟩
    rcases hFound hWhole t with ⟨paths, hPaths, -⟩
    exact ⟨paths, hPaths⟩
  · rcases discovers_unless_cutsSet Sample.parse_cutDocument "/p" with
      ⟨rules, hRules, -, hFails, hQuality, hRelease⟩
    have hCut : Glob.CutsSet "s[/]t" := ⟨_, rfl, rfl⟩
    rcases hFails ⟨"s[/]t", by simp [Sample.cutConfig], hCut⟩ with
      ⟨stop, hStop⟩
    let plan :=
      Sample.cutConfig.planFor "/p" Sample.environment
        ⟨"1", by decide⟩ rules
    have hResolve :
        Sample.cutConfig.resolve "/p" (some "1") none
          Sample.environment = .ok plan :=
      resolve_eq_ok_iff.mpr ⟨_, rules, rfl, hRules, rfl⟩
    refine ⟨stop, { Sample.jsonPipeline with plan }, hResolve,
      fun w => ?_, fun json t => ?_⟩
    · exact (hRelease _ _ w (some "1") none Sample.environment
        hResolve _).mpr (hStop w.tree)
    · exact (hQuality ⟨"/p", some Sample.cutConfig, none⟩ json t rfl
        rfl _).mpr (hStop t)

end ReleasePipeline
