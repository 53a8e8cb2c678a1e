import ReleasePipeline.Fault

/-
  This file proves what contexts do to a failure.  However
  many are added, its help and the terminal failure that it
  carries stay the same.  So does its exit code, except for
  one class: a failure of file access has a code of its own
  only as long as it has no context, and the code of a general
  failure from the first context on.

  Key definitions include:
    * `Fault.isIo`
    * `Fault.withContexts`

  Main declarations:
    * `Fault.exitCode_withContext`
    * `foldl_withContext`
    * `Fault.class_withContexts`
-/

------------------------------------------------------------
-- One Context
------------------------------------------------------------

namespace ReleasePipeline

namespace Fault

/- Whether a failure is one of file access and nothing more. -/
def isIo : Fault → Bool
  | .io _ => true
  | _ => false

variable {f : Fault}

/- With a context it is more than that. -/
theorem isIo_withContext (f : Fault) (context : String) :
    (f.withContext context).isIo = false := by
  cases f with
  | general text inner help => cases inner <;> rfl
  | _ => rfl

/- A context gives no help and takes none away. -/
theorem help_withContext (f : Fault) (context : String) :
    (f.withContext context).help = f.help := by
  cases f with
  | general text inner help => cases inner <;> rfl
  | _ => rfl

/- A context neither makes nor hides a terminal failure. -/
theorem release?_withContext (f : Fault) (context : String) :
    (f.withContext context).release? = f.release? := by
  cases f with
  | general text inner help => cases inner <;> rfl
  | _ => rfl

/- The exit code that a failure has under a context. -/
def exitCodeInContext (f : Fault) : Nat :=
  if f.isIo then 1 else f.exitCode

theorem exitCode_withContext (f : Fault) (context : String) :
    (f.withContext context).exitCode = f.exitCodeInContext := by
  cases f with
  | general text inner help => cases inner <;> rfl
  | _ => rfl

/- Under a second context it is the same as under the first. -/
theorem exitCodeInContext_withContext (f : Fault) (context : String) :
    (f.withContext context).exitCodeInContext = f.exitCodeInContext := by
  rw [exitCodeInContext, isIo_withContext, if_neg Bool.false_ne_true,
    exitCode_withContext]

------------------------------------------------------------
-- Many Contexts
------------------------------------------------------------

/- A failure with contexts, which are added in their order. -/
def withContexts
    (f : Fault)
    (contexts : List String) : Fault :=
  contexts.foldl (fun f context => f.withContext context) f

/- What one context leaves as it is, many contexts do. -/
theorem view_withContexts
    {α : Type}
    {view : Fault → α}
    (hView : ∀ f context, view (withContext context f) = view f)
    (f : Fault)
    (contexts : List String) :
    view (f.withContexts contexts) = view f := by
  induction contexts generalizing f with
  | nil => rfl
  | cons context contexts ih =>
      exact (ih (f.withContext context)).trans (hView f context)

/- Whether there is a context matters, but not how many. -/
theorem exitCode_withContexts (f : Fault) (contexts : List String) :
    (f.withContexts contexts).exitCode =
      if contexts = [] then f.exitCode else f.exitCodeInContext := by
  rcases List.eq_nil_or_concat contexts with rfl | ⟨inner, last, rfl⟩
  · rfl
  · rw [if_neg (by simp), withContexts, List.concat_eq_append,
      List.foldl_append, List.foldl_cons, List.foldl_nil,
      exitCode_withContext]
    exact view_withContexts exitCodeInContext_withContext f inner

end Fault

/- Contexts are added to a result by adding them to its failure. -/
theorem foldl_withContext
    {α : Type}
    (contexts : List String)
    (r : Except Fault α) :
    contexts.foldl (fun r context => withContext context r) r =
      r.mapError (·.withContexts contexts) := by
  induction contexts generalizing r with
  | nil => cases r <;> rfl
  | cons context contexts ih =>
      rw [List.foldl_cons, ih]
      cases r <;> rfl

/- The context of file access is one that is added like others. -/
theorem ioContext_eq_withContext
    {α : Type}
    (context : String)
    (r : Except IoError α) :
    ioContext context r = withContext context (r.mapError .io) := by
  cases r <;> rfl

/-
  Contexts leave the class of a failure as it is, except that
  a failure of file access has the exit code of the system
  without a context only, and that of the user under any.
-/
theorem Fault.class_withContexts
    (f : Fault)
    (contexts : List String) :
    (f.withContexts contexts).help = f.help ∧
    (f.withContexts contexts).release? = f.release? ∧
    ((f.withContexts contexts).exitCode = f.exitCode ↔
      contexts = [] ∨ f.isIo = false) ∧
    (f.isIo = true →
      f.exitCode = 2 ∧
        (contexts ≠ [] → (f.withContexts contexts).exitCode = 1)) ∧
    (∀ {α : Type} (r : Except Fault α),
      contexts.foldl
          (fun r context => ReleasePipeline.withContext context r) r =
        r.mapError (·.withContexts contexts)) ∧
    ∀ {α : Type} (context : String) (r : Except IoError α),
      ioContext context r =
        ReleasePipeline.withContext context (r.mapError .io) := by
  refine ⟨view_withContexts help_withContext f contexts,
    view_withContexts release?_withContext f contexts, ?_, ?_,
    foldl_withContext contexts, ioContext_eq_withContext⟩
  · rw [exitCode_withContexts]
    cases f <;> simp [exitCodeInContext, isIo, exitCode]
  · intro hIo
    cases f with
    | io cause =>
        refine ⟨rfl, fun hSome => ?_⟩
        rw [exitCode_withContexts, if_neg hSome]
        rfl
    | _ => cases hIo

/- A lock that cannot be read is a failure of the user. -/
theorem Fault.sample_class_withContexts :
    (Fault.io .permissionDenied).isIo = true ∧
    (Fault.io .permissionDenied).exitCode = 2 ∧
    ((Fault.io .permissionDenied).withContexts
        ["Failed to read lock snapshot quay.lock"]).exitCode =
      1 ∧
    ((Fault.io .permissionDenied).withContexts
        ["Failed to read lock snapshot quay.lock"]).help =
      none := by
  rcases class_withContexts (.io .permissionDenied)
      ["Failed to read lock snapshot quay.lock"] with
    ⟨hHelp, -, -, hIo, -, -⟩
  rcases hIo rfl with ⟨hCode, hContexts⟩
  exact ⟨rfl, hCode, hContexts nofun, hHelp⟩

end ReleasePipeline
