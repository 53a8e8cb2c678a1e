import Mathlib.Data.List.DropRight
import ReleasePipeline.Text.Basic

/-
  This file proves what the slashes at the end of a text are
  good for.  What is left without them stands before as many
  slashes as possible; and what begins the text or occurs in it
  begins or occurs in the rest, unless it ends in some of them.

  Key definitions include:
    * `Text.slashes`
    * `Text.WithoutSlashes`

  Main declarations:
    * `Text.withoutSlashes_iff`
    * `Text.prefix_append_slashes_iff`
    * `Text.infix_append_slashes_iff`
    * `Text.contains_iff`
-/

------------------------------------------------------------
-- Trailing Slashes
------------------------------------------------------------

namespace ReleasePipeline

namespace Text

/- As many slashes as a number says. -/
def slashes (n : Nat) : String :=
  String.ofList (List.replicate n '/')

/- A text without the slashes at the end of another one. -/
structure WithoutSlashes (bare s : String) : Prop where
  slashes : ∃ n, s.toList = bare.toList ++ List.replicate n '/'
  bare : bare.toList.getLast? ≠ some '/'

theorem toList_append_slashes
    (s : String)
    (n : Nat) :
    (s ++ slashes n).toList = s.toList ++ List.replicate n '/' := by
  rw [String.toList_append, slashes, String.toList_ofList]

theorem withoutSlashes_append
    {bare : String}
    (hBare : bare.toList.getLast? ≠ some '/')
    (n : Nat) :
    WithoutSlashes bare (bare ++ slashes n) where
  slashes := ⟨n, toList_append_slashes bare n⟩
  bare := hBare

/- The text is put together again from the other and its slashes. -/
theorem WithoutSlashes.exists_eq
    {bare s : String}
    (hWithout : WithoutSlashes bare s) :
    ∃ n, s = bare ++ Text.slashes n := by
  rcases hWithout.slashes with ⟨n, hChars⟩
  refine ⟨n, String.toList_inj.mp ?_⟩
  rw [hChars, toList_append_slashes]

theorem rdropWhile_append_replicate
    {cs : List Char}
    (hBare : cs.getLast? ≠ some '/')
    (n : Nat) :
    (cs ++ List.replicate n '/').rdropWhile (· == '/') = cs := by
  induction n with
  | zero =>
      rw [List.replicate_zero, List.append_nil,
        List.rdropWhile_eq_self_iff]
      intro hNe hSlash
      apply hBare
      rw [List.getLast?_eq_some_getLast hNe, beq_iff_eq.mp hSlash]
  | succ n ih =>
      rw [List.replicate_succ', ← List.append_assoc,
        List.rdropWhile_concat_pos (· == '/') _ '/' rfl, ih]

/- There is only one such text. -/
theorem withoutSlashes_iff {bare s : String} :
    WithoutSlashes bare s ↔ bare = dropTrailingSlashes s := by
  have hDrop :
      (dropTrailingSlashes s).toList =
        s.toList.rdropWhile (· == '/') := by
    rw [dropTrailingSlashes, String.toList_ofList]
    rfl
  constructor
  · rintro ⟨⟨n, hSlashes⟩, hBare⟩
    apply String.toList_inj.mp
    rw [hDrop, hSlashes, rdropWhile_append_replicate hBare]
  · rintro rfl
    constructor
    · let slashes := s.toList.rtakeWhile (· == '/')
      have hSlashes :
          slashes = List.replicate slashes.length '/' := by
        rw [List.eq_replicate_iff]
        refine ⟨rfl, fun c hMember => ?_⟩
        have hTest := List.mem_rtakeWhile_imp hMember
        exact beq_iff_eq.mp hTest
      refine ⟨slashes.length, ?_⟩
      rw [← hSlashes, hDrop, List.rdropWhile_append_rtakeWhile]
    · intro hLast
      rw [hDrop] at hLast
      rcases List.getLast?_eq_some_iff.mp hLast with ⟨front, hFront⟩
      have hNe : s.toList.rdropWhile (· == '/') ≠ [] := by
        rw [hFront]
        simp
      have hNot := List.rdropWhile_last_not _ _ hNe
      simp only [hFront, List.getLast_append_singleton] at hNot
      exact hNot (beq_self_eq_true _)

/-
  A beginning that ends in slashes lies in what stands before
  the slashes of the text, or consists of it and some of them.
-/
theorem prefix_append_slashes_iff
    {start cs : List Char}
    (hStart : start.getLast? ≠ some '/')
    (hBare : cs.getLast? ≠ some '/')
    (k n : Nat) :
    start ++ List.replicate k '/' <+: cs ++ List.replicate n '/' ↔
      start ++ List.replicate k '/' <+: cs ∨ cs = start ∧ k ≤ n := by
  constructor
  · intro hPrefix
    rcases List.prefix_or_prefix_of_prefix hPrefix
        (List.prefix_append cs _) with
      hInside | ⟨slashes, hOver⟩
    · exact .inl hInside
    · rw [← hOver, List.prefix_append_right_inj,
        List.prefix_replicate_iff] at hPrefix
      rcases hPrefix with ⟨hLength, hSlashes⟩
      rw [hSlashes] at hOver
      have hSame : cs = start := by
        rw [← rdropWhile_append_replicate hBare slashes.length, hOver,
          rdropWhile_append_replicate hStart k]
      rw [hSame, List.append_cancel_left_eq,
        List.replicate_inj] at hOver
      exact .inr ⟨hSame, hOver.1 ▸ hLength⟩
  · rintro (hInside | ⟨rfl, hLength⟩)
    · exact hInside.trans (List.prefix_append cs _)
    · rw [List.prefix_append_right_inj, List.prefix_replicate_iff,
        List.length_replicate]
      exact ⟨hLength, rfl⟩

/- What occurs in a text is the end of a beginning of it. -/
theorem infix_iff_exists_start {needle cs : List Char} :
    needle <:+: cs ↔ ∃ front, front ++ needle <+: cs :=
  Iff.rfl

/- The same holds for whatever occurs somewhere in the text. -/
theorem infix_append_slashes_iff
    {needle cs : List Char}
    (hSome : needle ≠ [])
    (hNeedle : needle.getLast? ≠ some '/')
    (hBare : cs.getLast? ≠ some '/')
    (k n : Nat) :
    needle ++ List.replicate k '/' <:+: cs ++ List.replicate n '/' ↔
      needle ++ List.replicate k '/' <:+: cs ∨
        needle <:+ cs ∧ k ≤ n := by
  have hFront (front : List Char) :
      (front ++ needle).getLast? ≠ some '/' := by
    rw [List.getLast?_append_of_ne_nil front hSome]
    exact hNeedle
  simp only [infix_iff_exists_start, ← List.append_assoc,
    prefix_append_slashes_iff (hFront _) hBare, exists_or,
    exists_and_right]
  constructor
  · rintro (hInside | ⟨⟨front, rfl⟩, hLength⟩)
    · exact .inl hInside
    · exact .inr ⟨List.suffix_append front needle, hLength⟩
  · rintro (hInside | ⟨⟨front, rfl⟩, hLength⟩)
    · exact .inl hInside
    · exact .inr ⟨⟨front, rfl⟩, hLength⟩

------------------------------------------------------------
-- Occurrences
------------------------------------------------------------

theorem startsWith_iff {s start : String} :
    startsWith s start = true ↔ start.toList <+: s.toList :=
  List.isPrefixOf_iff_prefix

/- The text that follows the beginning of another. -/
theorem exists_append_of_startsWith
    {s start : String}
    (hStarts : startsWith s start = true) :
    ∃ rest, s = start ++ rest := by
  rcases startsWith_iff.mp hStarts with ⟨rest, hChars⟩
  refine ⟨String.ofList rest, String.toList_inj.mp ?_⟩
  rw [String.toList_append, String.toList_ofList, hChars]

theorem occursIn_iff {needle cs : List Char} :
    occursIn needle cs = true ↔ needle <:+: cs := by
  induction cs with
  | nil =>
      rw [occursIn, List.isEmpty_iff, List.infix_nil]
  | cons c cs ih =>
      rw [occursIn, Bool.or_eq_true, List.isPrefixOf_iff_prefix, ih,
        List.infix_cons_iff]

theorem contains_iff {s needle : String} :
    contains s needle = true ↔ needle.toList <:+: s.toList :=
  occursIn_iff

end Text

end ReleasePipeline
