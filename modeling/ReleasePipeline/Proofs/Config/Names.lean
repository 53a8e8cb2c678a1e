import ReleasePipeline.Config.Resolution
import ReleasePipeline.Proofs.Host.Actions
import ReleasePipeline.Proofs.Publish.Layout
import ReleasePipeline.Proofs.Release.Metadata

/-
  This file proves what a configuration that was accepted says
  about the names of a release.  The parts of the group, the
  artifact and the version do not lead to another directory.
  The group and the artifact may be empty at first, but not
  when the metadata are complete.

  Key definitions include:
    * `Layout.Confined`

  Main declarations:
    * `isName_of_isPathSegment`
    * `Config.staysInPlace`
    * `Config.confined`
-/

------------------------------------------------------------
-- Path Segments
------------------------------------------------------------

namespace ReleasePipeline

/- A path segment does not leave its directory. -/
theorem isName_of_isPathSegment
    {s : String}
    (hSegment : isPathSegment s = true) :
    Path.IsName s := by
  unfold isPathSegment at hSegment
  simp only [Bool.and_eq_true, bne_iff_ne, ne_eq,
    Bool.not_eq_true'] at hSegment
  rcases hSegment with ⟨⟨⟨hEmpty, hDot⟩, hDots⟩, hChars⟩
  refine ⟨?_, ?_, ?_⟩
  · unfold Path.isIdle
    rw [Bool.or_eq_false_iff, beq_eq_false_iff_ne, beq_eq_false_iff_ne]
    constructor
    · intro hEq
      exact hEmpty (String.toList_inj.mp hEq)
    · intro hEq
      exact hDot (String.toList_inj.mp hEq)
  · intro hEq
    exact hDots (String.toList_inj.mp hEq)
  · intro hSlash
    have hNone := List.any_eq_false.mp hChars '/' hSlash
    exact hNone (by decide)

/-
  A layout of which every part is a name: those of the group,
  the artifact and the version.
-/
structure Layout.Confined (l : Layout) : Prop where
  group : ∀ part ∈ Text.pieces '.' l.group, Path.IsName part
  artifact : Path.IsName l.artifact
  version : Path.IsName l.version

------------------------------------------------------------
-- Accepted Names
------------------------------------------------------------

namespace Config

variable {text : String} {c : Config}

/- A configuration that was accepted has passed its checks. -/
theorem validate_of_parse (hParse : parse text = .ok c) :
    validate c = .ok () := by
  rcases Except.bind_eq_ok hParse with ⟨read, -, hRest⟩
  rcases Except.bind_eq_ok hRest with ⟨⟨⟩, hValid, hPure⟩
  cases hPure
  exact hValid

/- A group that was accepted is empty or a dotted path. -/
theorem group_of_parse (hParse : parse text = .ok c) :
    c.project.group = "" ∨ isDottedPath c.project.group = true := by
  have hValid := validate_of_parse hParse
  rcases Except.bind_eq_ok hValid with ⟨⟨⟩, hGroup, -⟩
  have hForm := Checks.ensure_eq_ok hGroup
  rw [Bool.or_eq_true, beq_iff_eq] at hForm
  exact hForm

/- An artifact that was accepted is empty or a path segment. -/
theorem artifact_of_parse (hParse : parse text = .ok c) :
    c.project.artifact = "" ∨
      isPathSegment c.project.artifact = true := by
  have hValid := validate_of_parse hParse
  rcases Except.bind_eq_ok hValid with ⟨-, -, hRest⟩
  rcases Except.bind_eq_ok hRest with ⟨⟨⟩, hArtifact, -⟩
  have hForm := Checks.ensure_eq_ok hArtifact
  rw [Bool.or_eq_true, beq_iff_eq] at hForm
  exact hForm

/- The artifact of a configuration has no slash in it. -/
theorem no_slash_of_parse (hParse : parse text = .ok c) :
    '/' ∉ c.project.artifact.toList := by
  rcases artifact_of_parse hParse with hEmpty | hSegment
  · rw [hEmpty]
    decide
  · exact (isName_of_isPathSegment hSegment).no_slash

/- The files of a configured release stay in one directory. -/
theorem staysInPlace
    (hParse : parse text = .ok c)
    (version : Version) :
    (Layout.ofMetadata (c.metadata version)).StaysInPlace :=
  ⟨no_slash_of_parse hParse, isName_of_isPathSegment version.segment⟩

/-
  With complete metadata neither the group nor the artifact is
  empty, so all names of a configured release are checked.
-/
theorem confined
    (hParse : parse text = .ok c)
    {version : Version}
    (hComplete : (c.metadata version).validate = .ok ()) :
    (Layout.ofMetadata (c.metadata version)).Confined := by
  rcases (ReleaseMetadata.validate_eq_ok_iff _).mp hComplete with
    ⟨-, hFilled⟩
  have hGroup : c.project.group ≠ "" := by
    intro hEmpty
    have hBlank :=
      hFilled ("group", c.project.group) List.mem_cons_self
    rw [hEmpty] at hBlank
    cases hBlank
  have hArtifact : c.project.artifact ≠ "" := by
    intro hEmpty
    have hBlank :=
      hFilled ("artifact", c.project.artifact)
        (List.mem_cons_of_mem _ List.mem_cons_self)
    rw [hEmpty] at hBlank
    cases hBlank
  have hParts := (group_of_parse hParse).resolve_left hGroup
  have hSegment := (artifact_of_parse hParse).resolve_left hArtifact
  refine ⟨?_, ?_, ?_⟩
  · intro part hPart
    exact isName_of_isPathSegment (List.all_eq_true.mp hParts part hPart)
  · exact isName_of_isPathSegment hSegment
  · exact isName_of_isPathSegment version.segment

end Config

end ReleasePipeline
