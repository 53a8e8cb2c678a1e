import ReleasePipeline.Proofs.Lock.Gathering
import ReleasePipeline.Proofs.Lock.RoundTrip

/-
  This file proves that snapshots are canonical.  What is read
  of a file depends on the entries that it lists and not on
  their order, nor on how often it lists them; so a file that
  was merged from others is the same snapshot however it was
  merged.  The graphs of version lists are canonical as well.

  Key definitions include:
    * `LockSnapshot.Lists`

  Main declarations:
    * `Catalog.ofEntries_congr`
    * `LockSnapshot.parse_eq_ok_iff_of_lists`
    * `LockSnapshot.parse_canonical`
-/

------------------------------------------------------------
-- Files with the Same Entries
------------------------------------------------------------

namespace ReleasePipeline

/- A catalog is the same in whichever order it was made. -/
theorem Catalog.ofEntries_congr
    {es fs : List LockEntry}
    (hSame : ∀ e, e ∈ es ↔ e ∈ fs) :
    ofEntries es = ofEntries fs := by
  apply ext_mem
  intro e
  rw [mem_ofEntries, mem_ofEntries, hSame]

/- The graph of version lists depends on the versions alone. -/
theorem ResolvedGraph.ofLists_congr
    {m n : VersionLists}
    (hSame : m.SameVersions n) :
    ofLists m = ofLists n := by
  have hMembers :
      ∀ e, e ∈ Catalog.ungrouped m.lists ↔
        e ∈ Catalog.ungrouped n.lists := by
    intro e
    rw [← VersionLists.mem_ungrouped_sorted,
      VersionLists.sorted_congr hSame,
      VersionLists.mem_ungrouped_sorted]
  unfold ofLists ofEntries
  rw [Catalog.ofEntries_congr hMembers]

namespace LockSnapshot

/- A text that lists entries under a version of the format. -/
def Lists
    (text : String)
    (version : Nat)
    (es : List LockEntry) : Prop :=
  (Toml.datum? text).bind fileOfDatum = some (version, es)

/- There is such a text for entries in any order. -/
theorem lists_fileText (es : List LockEntry) :
    Lists (fileText es) formatVersion es := by
  unfold Lists
  rw [datum?_fileText, Option.bind_some, fileOfDatum_fileDatum]

theorem parse_eq_ok_iff_of_lists
    {text : String}
    {version : Nat}
    {es : List LockEntry}
    (hLists : Lists text version es)
    {s : LockSnapshot} :
    parse text = .ok s ↔
      version = formatVersion ∧
      (∀ e ∈ es, SemVer.isVersion e.package.version = true) ∧
      s = { catalog := Catalog.ofEntries es } := by
  unfold Lists at hLists
  rw [parse_eq_ok_iff, hLists]
  constructor
  · rintro ⟨fs, hFile, hValid, hSnapshot⟩
    cases hFile
    exact ⟨rfl, hValid, hSnapshot⟩
  · rintro ⟨rfl, hValid, hSnapshot⟩
    exact ⟨es, rfl, hValid, hSnapshot⟩

/- A text is accepted for the versions that it lists. -/
theorem exists_parse_iff_of_lists
    {text : String}
    {version : Nat}
    {es : List LockEntry}
    (hLists : Lists text version es) :
    (∃ s, parse text = .ok s) ↔
      version = formatVersion ∧
        ∀ e ∈ es, SemVer.isVersion e.package.version = true := by
  constructor
  · rintro ⟨s, hParse⟩
    rcases (parse_eq_ok_iff_of_lists hLists).mp hParse with
      ⟨hVersion, hValid, -⟩
    exact ⟨hVersion, hValid⟩
  · rintro ⟨hVersion, hValid⟩
    exact ⟨_, (parse_eq_ok_iff_of_lists hLists).mpr
      ⟨hVersion, hValid, rfl⟩⟩

/-
  Two texts that list the same entries, in any order and with
  any repetitions, are both accepted or both refused, and the
  snapshots are equal; every list of entries has such a text,
  and its snapshot holds them gathered and sorted.  Graphs of
  the same versions at each coordinate are equal, too.
-/
theorem parse_canonical :
    (∀ a b version es fs,
      Lists a version es → Lists b version fs →
      (∀ e, e ∈ es ↔ e ∈ fs) →
        ((∃ s, parse a = .ok s) ↔ ∃ s, parse b = .ok s) ∧
        ∀ s t, parse a = .ok s → parse b = .ok t →
          s = t ∧ s.render = t.render ∧ ∀ g, s.diff g = t.diff g) ∧
    (∀ es,
      Lists (fileText es) formatVersion es ∧
      ((∃ s, parse (fileText es) = .ok s) ↔
        ∀ e ∈ es, SemVer.isVersion e.package.version = true) ∧
      ∀ s, parse (fileText es) = .ok s →
        s.catalog.groups =
          (VersionLists.ofEntries es).sorted.lists) ∧
    (∀ m n : VersionLists, m.SameVersions n →
      m.sorted = n.sorted ∧
      ResolvedGraph.ofLists m = ResolvedGraph.ofLists n) ∧
    ∀ m : VersionLists, (∀ g ∈ m.lists, g.2 ≠ []) →
      (ResolvedGraph.ofLists m).catalog.groups = m.sorted.lists := by
  refine ⟨?_, ?_, ?_, ?_⟩
  · intro a b version es fs hFirst hSecond hSame
    constructor
    · rw [exists_parse_iff_of_lists hFirst,
        exists_parse_iff_of_lists hSecond]
      simp only [hSame]
    · intro s t hParse hParse'
      have hEqual : s = t := by
        rw [((parse_eq_ok_iff_of_lists hFirst).mp hParse).2.2,
          ((parse_eq_ok_iff_of_lists hSecond).mp hParse').2.2,
          Catalog.ofEntries_congr hSame]
      subst hEqual
      exact ⟨rfl, rfl, fun _ => rfl⟩
  · intro es
    have hLists := lists_fileText es
    refine ⟨hLists, ?_, ?_⟩
    · rw [exists_parse_iff_of_lists hLists]
      exact and_iff_right rfl
    · intro s hParse
      rw [((parse_eq_ok_iff_of_lists hLists).mp hParse).2.2]
      exact Catalog.groups_ofEntries es
  · intro m n hSame
    exact ⟨VersionLists.sorted_congr hSame,
      ResolvedGraph.ofLists_congr hSame⟩
  · intro m hNonempty
    exact ResolvedGraph.groups_ofLists hNonempty

end LockSnapshot

namespace Sample

/- A version with a checksum, and the same one without. -/
def withSum : LockedPackage where
  version := "1.0.0"
  checksum := some "a"

def withoutSum : LockedPackage where
  version := "1.0.0"
  checksum := none

/- Entries of two coordinates. -/
def entriesOnce : List LockEntry :=
  [{ coordinate := "n", package := withSum },
    { coordinate := "m", package := withSum },
    { coordinate := "n", package := withoutSum }]

/- The same entries in another order, one of them twice. -/
def entriesMerged : List LockEntry :=
  [{ coordinate := "n", package := withoutSum },
    { coordinate := "n", package := withSum },
    { coordinate := "m", package := withSum },
    { coordinate := "n", package := withoutSum }]

/- The versions of one coordinate, and another list of them. -/
def listsOnce : VersionLists where
  lists := [("n", [withSum, withoutSum])]
  ordered := List.pairwise_singleton _ _

def listsMerged : VersionLists where
  lists := [("n", [withoutSum, withSum, withoutSum])]
  ordered := List.pairwise_singleton _ _

end Sample

/- Both files are accepted, and as the same snapshot. -/
theorem LockSnapshot.sample_parse_canonical :
    (∀ e, e ∈ Sample.entriesOnce ↔ e ∈ Sample.entriesMerged) ∧
    (∃ s,
      parse (fileText Sample.entriesOnce) = .ok s ∧
        parse (fileText Sample.entriesMerged) = .ok s ∧
        s.catalog.groups =
          [("m", [Sample.withSum]),
            ("n", [Sample.withoutSum, Sample.withSum])]) ∧
    Sample.listsOnce.sorted = Sample.listsMerged.sorted ∧
    (ResolvedGraph.ofLists Sample.listsMerged).catalog.groups =
      Sample.listsMerged.sorted.lists := by
  rcases parse_canonical with ⟨hTexts, hFiles, hGraphs, hGroups⟩
  have hSame :
      ∀ e, e ∈ Sample.entriesOnce ↔ e ∈ Sample.entriesMerged := by
    intro e
    simp only [Sample.entriesOnce, Sample.entriesMerged,
      List.mem_cons, List.not_mem_nil, or_false]
    tauto
  have hVersions : Sample.listsOnce.SameVersions Sample.listsMerged := by
    refine .cons ⟨rfl, fun p => ?_⟩ .nil
    simp only [List.mem_cons, List.not_mem_nil, or_false]
    tauto
  rcases hTexts _ _ _ _ _ (hFiles Sample.entriesOnce).1
      (hFiles Sample.entriesMerged).1 hSame with
    ⟨hAccepted, hEqual⟩
  have hOnce : ∃ s, parse (fileText Sample.entriesOnce) = .ok s :=
    (hFiles _).2.1.mpr (by decide)
  rcases hOnce with ⟨s, hParse⟩
  rcases hAccepted.mp ⟨s, hParse⟩ with ⟨t, hParse'⟩
  have hSnapshot := (hEqual s t hParse hParse').1
  subst hSnapshot
  have hCatalog :=
    ((parse_eq_ok_iff_of_lists (lists_fileText _)).mp hParse).2.2
  refine ⟨hSame, ⟨s, hParse, hParse', ?_⟩,
    (hGraphs _ _ hVersions).1,
    hGroups _ (by decide)⟩
  rw [hCatalog]
  decide

end ReleasePipeline
