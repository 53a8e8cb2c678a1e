import ReleasePipeline.Config.Resolution
import ReleasePipeline.Proofs.Host.Actions

/-
  This file proves when a configuration is resolved and what
  the plan is made of: the version is taken from the first
  source that names one, and a secret from a variable that is
  not empty.

  Main declarations:
    * `Version.ofText_eq_ok_iff`
    * `Config.resolve_eq_ok_iff`
    * `Config.metadata_of_resolve`
    * `Config.secret?_eq_some_iff`
-/

------------------------------------------------------------
-- Plans
------------------------------------------------------------

namespace ReleasePipeline

/- A version keeps the text that it was read from. -/
theorem Version.ofText_eq_ok_iff
    {text : String}
    {v : Version} :
    ofText text = .ok v ↔ v.text = text := by
  unfold ofText
  constructor
  · intro hRead
    split at hRead
    · cases hRead
      rfl
    · cases hRead
  · intro hText
    subst hText
    rw [dif_pos v.segment]

namespace Config

variable {c : Config} {root : String}
variable {asked package : Option String}
variable {env : Environment} {plan : ReleasePlan}

/- The plan of a configuration for a version and its rules. -/
def planFor
    (c : Config)
    (root : String)
    (env : Environment)
    (version : Version)
    (rules : RuleSettings) : ReleasePlan where
  root := root
  version := version
  metadata := c.metadata version
  lockSnapshot := Path.join root c.lockSnapshot
  quality := rules
  signing := c.signingSources env
  router := c.router env
  artifacts := c.artifacts
  timeout := c.timeout

/-
  A configuration is resolved when there is a version and the
  rules are accepted; the environment cannot prevent it.
-/
theorem resolve_eq_ok_iff :
    c.resolve root asked package env = .ok plan ↔
      ∃ version rules,
        c.versionText? asked package = some version.text ∧
        c.quality.compile = .ok rules ∧
        plan = c.planFor root env version rules := by
  constructor
  · intro hResolve
    unfold resolve at hResolve
    split at hResolve
    · next text hText =>
        rcases Except.bind_eq_ok hResolve with ⟨version, hRead, hRest⟩
        rcases Except.bind_eq_ok hRest with ⟨rules, hRules, hPure⟩
        cases hPure
        rw [Version.ofText_eq_ok_iff] at hRead
        exact ⟨version, rules, by rw [hText, hRead], hRules, rfl⟩
    · cases hResolve
  · rintro ⟨version, rules, hText, hRules, rfl⟩
    have hRead : Version.ofText version.text = .ok version :=
      Version.ofText_eq_ok_iff.mpr rfl
    simp only [resolve, hText, hRead, hRules]
    rfl

/- What a resolved plan takes its metadata from. -/
theorem metadata_of_resolve
    (hResolve : c.resolve root asked package env = .ok plan) :
    plan.metadata = c.metadata plan.version := by
  rcases resolve_eq_ok_iff.mp hResolve with ⟨version, rules, -, -, rfl⟩
  rfl

------------------------------------------------------------
-- Secrets
------------------------------------------------------------

/- A secret is the text of a variable that is not empty. -/
theorem secret?_eq_some_iff
    {name : String}
    {s : Secret} :
    secret? env name = some s ↔
      env name = some s.expose ∧ s.expose ≠ "" := by
  rcases s with ⟨text⟩
  unfold secret?
  cases hValue : env name with
  | none => simp
  | some value =>
      dsimp only
      by_cases hEmpty : value = ""
      · rw [if_pos hEmpty, hEmpty]
        constructor
        · exact nofun
        · rintro ⟨hText, hNe⟩
          exact absurd (Option.some.inj hText).symm hNe
      · rw [if_neg hEmpty]
        constructor
        · intro hSecret
          cases hSecret
          exact ⟨rfl, hEmpty⟩
        · rintro ⟨hText, -⟩
          cases hText
          rfl

/- There is no secret in a variable that is unset or empty. -/
theorem isNone_secret?_iff {name : String} :
    (secret? env name).isNone = true ↔
      env name = none ∨ env name = some "" := by
  unfold secret?
  cases hValue : env name with
  | none => simp
  | some value => by_cases hEmpty : value = "" <;> simp [hEmpty]

end Config

end ReleasePipeline
