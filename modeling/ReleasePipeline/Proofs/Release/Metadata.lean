import ReleasePipeline.Proofs.Host.Actions
import ReleasePipeline.Proofs.Json.RoundTrip
import ReleasePipeline.Release.Metadata

/-
  This file proves that metadata are read back from the
  document that holds them, and when they are complete.

  Main declarations:
    * `ReleaseMetadata.ofDatum_toDatum`
    * `ReleaseMetadata.ofDocument_document`
    * `ReleaseMetadata.validate_eq_ok_iff`
-/

------------------------------------------------------------
-- Values
------------------------------------------------------------

namespace ReleasePipeline

open Json (Textual)

/- A record of texts is a document. -/
theorem Json.textual_texts (texts : List (String × String)) :
    Textual (.record (texts.map fun t => (t.1, .text t.2))) := by
  refine .record ?_
  intro f hMem
  rcases List.mem_map.mp hMem with ⟨t, -, rfl⟩
  exact .text t.2

theorem License.textual_toDatum (l : License) :
    Textual l.toDatum :=
  Json.textual_texts
    [("name", l.name), ("url", l.url), ("distribution", l.distribution)]

theorem Developer.textual_toDatum (d : Developer) :
    Textual d.toDatum :=
  Json.textual_texts [("name", d.name), ("email", d.email)]

theorem SourceControl.textual_toDatum (s : SourceControl) :
    Textual s.toDatum :=
  Json.textual_texts
    [("connection", s.connection),
      ("developer_connection", s.developerConnection), ("url", s.url)]

theorem Developer.ofDatum_toDatum
    (dialect : Datum.Dialect)
    (d : Developer) :
    ofDatum dialect d.toDatum = some d := rfl

/- Developers are read one by one. -/
theorem Developer.readAll_toDatum
    (dialect : Datum.Dialect)
    (ds : List Developer) :
    Datum.readAll (ofDatum dialect) (ds.map toDatum) = some ds := by
  induction ds with
  | nil => rfl
  | cons d ds ih =>
      rw [List.map_cons, Datum.readAll, ofDatum_toDatum, ih]

namespace ReleaseMetadata

theorem textual_toDatum (m : ReleaseMetadata) :
    Textual m.toDatum := by
  have hDevelopers :
      Textual (.list (m.developers.map Developer.toDatum)) := by
    refine .list ?_
    intro d hMem
    rcases List.mem_map.mp hMem with ⟨developer, -, rfl⟩
    exact developer.textual_toDatum
  refine .record ?_
  intro f hMem
  simp only [List.mem_cons, List.not_mem_nil, or_false] at hMem
  rcases hMem with
    rfl | rfl | rfl | rfl | rfl | rfl | rfl | rfl | rfl
  case inr.inr.inr.inr.inr.inr.inl => exact m.license.textual_toDatum
  case inr.inr.inr.inr.inr.inr.inr.inl => exact hDevelopers
  case inr.inr.inr.inr.inr.inr.inr.inr => exact m.scm.textual_toDatum
  all_goals exact .text _

/- Metadata are read back from their value in either dialect. -/
theorem ofDatum_toDatum
    (dialect : Datum.Dialect)
    (m : ReleaseMetadata) :
    ofDatum dialect m.toDatum = some m := by
  have hDevelopers :
      Datum.required (Datum.list? (Developer.ofDatum dialect))
          (some (.list (m.developers.map Developer.toDatum))) =
        some m.developers :=
    Developer.readAll_toDatum dialect m.developers
  rcases m with
    ⟨group, artifact, version, name, description, url, license,
      developers, scm⟩
  change
    (do
      let ds ←
        Datum.required (Datum.list? (Developer.ofDatum dialect))
          (some (.list (developers.map Developer.toDatum)))
      pure
        { group, artifact, version, name, description, url, license
          developers := ds, scm }) =
      some (ReleaseMetadata.mk group artifact version name description
        url license developers scm)
  rw [hDevelopers]
  rfl

------------------------------------------------------------
-- Documents
------------------------------------------------------------

/- What is published can be read again, whatever the texts are. -/
theorem ofDocument_document (m : ReleaseMetadata) :
    ofDocument m.document = .ok m := by
  unfold ofDocument document Json.decode
  rw [Json.read?_pretty m.textual_toDatum, Option.bind_some,
    ofDatum_toDatum]

------------------------------------------------------------
-- Completeness
------------------------------------------------------------

/-
  Metadata are complete if there is a developer and no
  required field is blank.
-/
theorem validate_eq_ok_iff (m : ReleaseMetadata) :
    m.validate = .ok () ↔
      m.developers ≠ [] ∧
        ∀ f ∈ m.requiredFields, Text.isBlank f.2 = false := by
  have hMissing :
      m.validate = .ok () ↔ m.missingFields = [] := by
    unfold validate
    split <;> simp_all
  rw [hMissing, missingFields, List.append_eq_nil_iff,
    List.map_eq_nil_iff, List.filter_eq_nil_iff]
  constructor
  · rintro ⟨hBlank, hNone⟩
    constructor
    · intro hEmpty
      rw [if_pos hEmpty] at hNone
      cases hNone
    · intro f hMem
      exact Bool.eq_false_iff.mpr (hBlank f hMem)
  · rintro ⟨hSome, hBlank⟩
    constructor
    · intro f hMem
      exact Bool.eq_false_iff.mp (hBlank f hMem)
    · rw [if_neg hSome]

end ReleaseMetadata

end ReleasePipeline
