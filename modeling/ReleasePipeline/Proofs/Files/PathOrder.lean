import ReleasePipeline.Files.Path

/-
  This file proves that paths are ordered by their components:
  of two paths with different components exactly one comes
  before the other.  Paths with the same components are not
  told apart, however they are spelled.

  Main declarations:
    * `Path.before_trans`
    * `Path.before_trichotomy`
    * `Path.components_ne_of_before`
-/

------------------------------------------------------------
-- Components
------------------------------------------------------------

namespace ReleasePipeline

namespace Path

namespace Component

theorem before_irrefl (a : Component) : a.before a = false := by
  cases a with
  | name text => exact decide_eq_false (List.lt_irrefl _)
  | _ => rfl

theorem before_trans
    {a b c : Component}
    (hFirst : a.before b = true)
    (hSecond : b.before c = true) :
    a.before c = true := by
  cases a <;> cases b <;> cases c <;>
    simp_all [before, rank]
  next x y z => exact List.lt_trans hFirst hSecond

theorem before_trichotomy (a b : Component) :
    a.before b = true ∨ a = b ∨ b.before a = true := by
  cases a with
  | name x =>
      cases b with
      | name y =>
          simp only [before, decide_eq_true_eq, name.injEq]
          by_cases hLess : x.toList < y.toList
          · exact .inl hLess
          · by_cases hMore : y.toList < x.toList
            · exact .inr (.inr hMore)
            · have hEq := List.le_antisymm hMore hLess
              exact .inr (.inl (String.toList_inj.mp hEq))
      | _ => exact .inr (.inr rfl)
  | _ => cases b <;> simp [before, rank]

end Component

------------------------------------------------------------
-- Lists of Components
------------------------------------------------------------

theorem componentsBefore_irrefl (as : List Component) :
    componentsBefore as as = false := by
  induction as with
  | nil => rfl
  | cons a as ih =>
      simp [componentsBefore, Component.before_irrefl, ih]

theorem componentsBefore_trans
    {as bs cs : List Component}
    (hFirst : componentsBefore as bs = true)
    (hSecond : componentsBefore bs cs = true) :
    componentsBefore as cs = true := by
  induction as generalizing bs cs with
  | nil =>
      cases cs with
      | nil => cases bs <;> cases hSecond
      | cons c cs => rfl
  | cons a as ih =>
      cases bs with
      | nil => cases hFirst
      | cons b bs =>
          cases cs with
          | nil => cases hSecond
          | cons c cs =>
              simp only [componentsBefore, Bool.or_eq_true,
                Bool.and_eq_true, beq_iff_eq] at hFirst hSecond ⊢
              rcases hFirst with hFirst | ⟨rfl, hFirst⟩
              · rcases hSecond with hSecond | ⟨rfl, -⟩
                · exact .inl (Component.before_trans hFirst hSecond)
                · exact .inl hFirst
              · rcases hSecond with hSecond | ⟨rfl, hSecond⟩
                · exact .inl hSecond
                · exact .inr ⟨rfl, ih hFirst hSecond⟩

theorem componentsBefore_trichotomy (as bs : List Component) :
    componentsBefore as bs = true ∨ as = bs ∨
      componentsBefore bs as = true := by
  induction as generalizing bs with
  | nil =>
      cases bs with
      | nil => exact .inr (.inl rfl)
      | cons b bs => exact .inl rfl
  | cons a as ih =>
      cases bs with
      | nil => exact .inr (.inr rfl)
      | cons b bs =>
          simp only [componentsBefore, Bool.or_eq_true,
            Bool.and_eq_true, beq_iff_eq]
          rcases Component.before_trichotomy a b with
            hLess | rfl | hMore
          · exact .inl (.inl hLess)
          · rcases ih bs with hLess | rfl | hMore
            · exact .inl (.inr ⟨rfl, hLess⟩)
            · exact .inr (.inl rfl)
            · exact .inr (.inr (.inr ⟨rfl, hMore⟩))
          · exact .inr (.inr (.inl hMore))

------------------------------------------------------------
-- Paths
------------------------------------------------------------

theorem before_trans
    {p q r : String}
    (hFirst : before p q = true)
    (hSecond : before q r = true) :
    before p r = true :=
  componentsBefore_trans hFirst hSecond

/- Paths that do not come one before the other are one path. -/
theorem before_trichotomy (p q : String) :
    before p q = true ∨ components p = components q ∨
      before q p = true :=
  componentsBefore_trichotomy _ _

theorem components_ne_of_before
    {p q : String}
    (hBefore : before p q = true) :
    components p ≠ components q := by
  intro hEq
  unfold before at hBefore
  rw [hEq, componentsBefore_irrefl] at hBefore
  cases hBefore

end Path

end ReleasePipeline
