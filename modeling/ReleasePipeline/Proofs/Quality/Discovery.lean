import ReleasePipeline.Proofs.Files.PathOrder
import ReleasePipeline.Quality.Gate

/-
  This file proves which files the quality gate looks at: the
  regular files that some glob matches.  They are collected in
  the order of their components, and a path that several globs
  match, or that is spelled in several ways, is taken once.

  Key definitions include:
    * `Gate.Matched`
    * `Gate.Collects`

  Main declarations:
    * `Gate.Collects.insertPath`
    * `Gate.discover_eq_ok`
-/

------------------------------------------------------------
-- Ordered Insertion
------------------------------------------------------------

namespace ReleasePipeline

namespace Gate

theorem mem_of_mem_insertPath
    {p x : String}
    {qs : List String}
    (hMember : x ∈ insertPath p qs) :
    x = p ∨ x ∈ qs := by
  induction qs with
  | nil => exact .inl (List.mem_singleton.mp hMember)
  | cons q qs ih =>
      unfold insertPath at hMember
      split at hMember
      · exact List.mem_cons.mp hMember
      · split at hMember
        · rcases List.mem_cons.mp hMember with rfl | hMember
          · exact .inr List.mem_cons_self
          · rcases ih hMember with hNew | hOld
            · exact .inl hNew
            · exact .inr (List.mem_cons_of_mem q hOld)
        · exact .inr hMember

theorem mem_insertPath_of_mem
    {x : String}
    {qs : List String}
    (p : String)
    (hMember : x ∈ qs) :
    x ∈ insertPath p qs := by
  induction qs with
  | nil => cases hMember
  | cons q qs ih =>
      unfold insertPath
      split
      · exact List.mem_cons_of_mem p hMember
      · split
        · rcases List.mem_cons.mp hMember with rfl | hMember
          · exact List.mem_cons_self
          · exact List.mem_cons_of_mem q (ih hMember)
        · exact hMember

/- An inserted path is there afterwards, perhaps respelled. -/
theorem exists_mem_insertPath
    (p : String)
    (qs : List String) :
    ∃ x ∈ insertPath p qs, Path.components x = Path.components p := by
  induction qs with
  | nil => exact ⟨p, List.mem_cons_self, rfl⟩
  | cons q qs ih =>
      unfold insertPath
      split
      · exact ⟨p, List.mem_cons_self, rfl⟩
      · next hNotBefore =>
          split
          · rcases ih with ⟨x, hMember, hSame⟩
            exact ⟨x, List.mem_cons_of_mem q hMember, hSame⟩
          · next hNotAfter =>
              rcases Path.before_trichotomy p q with
                hBefore | hSame | hAfter
              · exact absurd hBefore hNotBefore
              · exact ⟨q, List.mem_cons_self, hSame.symm⟩
              · exact absurd hAfter hNotAfter

theorem pairwise_insertPath
    {p : String}
    {qs : List String}
    (hOrdered : qs.Pairwise fun x y => Path.before x y = true) :
    (insertPath p qs).Pairwise fun x y => Path.before x y = true := by
  induction qs with
  | nil => exact List.pairwise_singleton _ p
  | cons q qs ih =>
      have hParts := List.pairwise_cons.mp hOrdered
      unfold insertPath
      split
      · next hBefore =>
          refine List.pairwise_cons.mpr ⟨?_, hOrdered⟩
          intro x hMember
          rcases List.mem_cons.mp hMember with rfl | hMember
          · exact hBefore
          · exact Path.before_trans hBefore (hParts.1 x hMember)
      · split
        · next hAfter =>
            refine List.pairwise_cons.mpr ⟨?_, ih hParts.2⟩
            intro x hMember
            rcases mem_of_mem_insertPath hMember with rfl | hMember
            · exact hAfter
            · exact hParts.1 x hMember
        · exact hOrdered

------------------------------------------------------------
-- Collecting
------------------------------------------------------------

/-
  A list in order that has the paths of a kind and no others,
  where paths with the same components count as one.
-/
structure Collects
    (found : List String)
    (kind : String → Prop) : Prop where
  ordered : found.Pairwise fun p q => Path.before p q = true
  sound : ∀ p ∈ found, kind p
  complete :
    ∀ p, kind p → ∃ q ∈ found, Path.components q = Path.components p

variable {found : List String} {kind kind' : String → Prop}

theorem Collects.congr
    (hCollects : Collects found kind)
    (hSame : ∀ p, kind p ↔ kind' p) :
    Collects found kind' where
  ordered := hCollects.ordered
  sound := fun p hMember => (hSame p).mp (hCollects.sound p hMember)
  complete := fun p hKind => hCollects.complete p ((hSame p).mpr hKind)

/- No two paths of a collection have the same components. -/
theorem Collects.nodup
    (hCollects : Collects found kind) :
    (found.map Path.components).Nodup := by
  rw [List.Nodup, List.pairwise_map]
  exact hCollects.ordered.imp Path.components_ne_of_before

theorem Collects.insertPath
    (hCollects : Collects found kind)
    (p : String) :
    Collects (Gate.insertPath p found) fun q => kind q ∨ q = p where
  ordered := pairwise_insertPath hCollects.ordered
  sound := by
    intro q hMember
    rcases mem_of_mem_insertPath hMember with rfl | hMember
    · exact .inr rfl
    · exact .inl (hCollects.sound q hMember)
  complete := by
    rintro q (hKind | rfl)
    · rcases hCollects.complete q hKind with ⟨x, hMember, hSame⟩
      exact ⟨x, mem_insertPath_of_mem p hMember, hSame⟩
    · exact exists_mem_insertPath q found

theorem Collects.foldl_insertPath
    (hCollects : Collects found kind)
    (ps : List String) :
    Collects (ps.foldl (fun found p => Gate.insertPath p found) found)
      fun q => kind q ∨ q ∈ ps := by
  induction ps generalizing found kind with
  | nil => exact hCollects.congr (by simp)
  | cons p ps ih =>
      refine (ih (hCollects.insertPath p)).congr fun q => ?_
      rw [List.mem_cons, or_assoc]

------------------------------------------------------------
-- Discovery
------------------------------------------------------------

/- A regular file that some of the globs below a root match. -/
def Matched
    (t : FileTree)
    (root : String)
    (sources : List String)
    (p : String) : Prop :=
  ∃ g ∈ sources, ∃ paths,
    Glob.search t (fullPattern root g) = .ok paths ∧
      p ∈ paths ∧ t.isFile p = true

variable {t : FileTree} {root : String}

theorem discoverFrom_eq_ok
    {patterns : List String}
    (hGlobs :
      ∀ g ∈ patterns, ∃ paths,
        Glob.search t (fullPattern root g) = .ok paths)
    (hCollects : Collects found kind) :
    ∃ all,
      discoverFrom t root patterns found = .ok all ∧
        Collects all fun p => kind p ∨ Matched t root patterns p := by
  induction patterns generalizing found kind with
  | nil =>
      refine ⟨found, rfl, hCollects.congr fun p => ?_⟩
      simp [Matched]
  | cons g patterns ih =>
      rcases hGlobs g List.mem_cons_self with ⟨paths, hSearch⟩
      have hRest :
          ∀ g ∈ patterns, ∃ paths,
            Glob.search t (fullPattern root g) = .ok paths :=
        fun g' hMember => hGlobs g' (List.mem_cons_of_mem g hMember)
      unfold discoverFrom
      rw [hSearch]
      rcases ih hRest
          (hCollects.foldl_insertPath (paths.filter t.isFile)) with
        ⟨all, hFound, hAll⟩
      refine ⟨all, hFound, hAll.congr fun p => ?_⟩
      rw [or_assoc]
      apply or_congr_right
      rw [List.mem_filter]
      constructor
      · rintro (hHere | ⟨g', hMember, hMatched⟩)
        · exact ⟨g, List.mem_cons_self, paths, hSearch, hHere⟩
        · exact ⟨g', List.mem_cons_of_mem g hMember, hMatched⟩
      · rintro ⟨g', hMember, hMatched⟩
        rcases List.mem_cons.mp hMember with rfl | hMember
        · rcases hMatched with ⟨paths', hSearch', hHere⟩
          rw [hSearch] at hSearch'
          cases hSearch'
          exact .inl hHere
        · exact .inr ⟨g', hMember, hMatched⟩

/- The files that are found are those that are matched. -/
theorem discover_eq_ok
    {s : RuleSettings}
    (hGlobs :
      ∀ g ∈ s.sources, ∃ paths,
        Glob.search t (fullPattern root g) = .ok paths) :
    ∃ paths,
      discover t s root = .ok paths ∧
        Collects paths (Matched t root s.sources) := by
  have hNone : Collects [] fun _ => False :=
    ⟨List.Pairwise.nil, nofun, nofun⟩
  rcases discoverFrom_eq_ok hGlobs hNone with ⟨paths, hFound, hAll⟩
  refine ⟨paths, hFound, hAll.congr fun p => ?_⟩
  rw [false_or]

end Gate

end ReleasePipeline
