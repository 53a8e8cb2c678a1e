import ReleasePipeline.Proofs.Config.Names
import ReleasePipeline.Proofs.Files.FileName
import ReleasePipeline.Proofs.Publish.Layout
import ReleasePipeline.Proofs.Text.Slashes
import ReleasePipeline.Release.Assembly

/-
  This file proves where the extension of an output comes from
  when the name that is configured for it has no dot.  Then
  the name has no other dot than those of the version, and one
  that is left in it with something in front of it divides it:
  the extension is what stands behind.

  Key definitions include:
    * `VersionDot`
    * `Assembly.output`

  Main declarations:
    * `Artifact.extension_of_fileName`
    * `VersionDot.extensionOfName_eq`
    * `Assembly.eq_output_of_readOutput`
    * `Assembly.fileName?_output`
    * `Assembly.extension_of_undotted_name`
-/

------------------------------------------------------------
-- Extensions and Names
------------------------------------------------------------

namespace ReleasePipeline

namespace Artifact

variable {a : Artifact} {name : String}

/- A name that ends like a compressed archive has an extension. -/
theorem extensionOfName_of_archive
    (hArchive : Text.endsWith name ".tar.gz" = true) :
    Path.extensionOfName name.toList = some "gz".toList := by
  unfold Text.endsWith at hArchive
  rcases List.isSuffixOf_iff_suffix.mp hArchive with ⟨front, hChars⟩
  have hDivided :
      name.toList = (front ++ ".tar".toList) ++ '.' :: "gz".toList := by
    rw [← hChars, List.append_assoc]
    rfl
  rw [hDivided, Path.extensionOfName_append _ (by decide), if_neg]
  simp

/- The extension of an artifact is that of the name of its file. -/
theorem extension_of_fileName
    (hName : Path.fileName? a.path = some name) :
    a.extension =
      match Path.extensionOfName name.toList with
      | none => "bin"
      | some ext =>
          if Text.endsWith name ".tar.gz" then
            "tar.gz"
          else
            String.ofList ext := by
  have hPart :
      Path.extension? a.path =
        (Path.extensionOfName name.toList).map String.ofList := by
    unfold Path.extension?
    rw [hName, Option.bind_eq_bind, Option.bind_some]
    cases Path.extensionOfName name.toList <;> rfl
  unfold extension
  rw [hName, hPart, Option.getD_some]
  dsimp only
  cases hExt : Path.extensionOfName name.toList with
  | some ext => rfl
  | none =>
      have hOther : ¬ Text.endsWith name ".tar.gz" = true := by
        intro hArchive
        rw [extensionOfName_of_archive hArchive] at hExt
        cases hExt
      rw [if_neg hOther]
      rfl

end Artifact

/- The extension of an artifact is seen in its remote name. -/
theorem Layout.artifactPath_eq_place_bin_iff
    (l : Layout)
    (a : Artifact) :
    l.artifactPath a = l.place (suffixOf a.kind ++ ".bin") ↔
      a.extension = "bin" := by
  have hTail : ".bin" = "." ++ "bin" := rfl
  rw [artifactPath_eq_place, place_inj, tailOf, String.append_assoc,
    String.append_right_inj, hTail, String.append_right_inj]

------------------------------------------------------------
-- Filled Names
------------------------------------------------------------

namespace Path

theorem isPlaceholder_artifact :
    IsPlaceholder "\x7bartifact\x7d" where
  begins := ⟨'{', "artifact\x7d".toList, by decide, by decide⟩
  long := by decide
  no_slash := by decide

theorem isPlaceholder_version :
    IsPlaceholder "\x7bversion\x7d" where
  begins := ⟨'{', "version\x7d".toList, by decide, by decide⟩
  long := by decide
  no_slash := by decide

end Path

------------------------------------------------------------
-- Dots of the Version
------------------------------------------------------------

/-
  The last dot of a version in the last place of a name where
  the version is filled in.  What stands behind it becomes the
  extension if the name has no other dots.  A dot that the
  filled name begins with does not count.
-/
structure VersionDot (name version : String) where
  before : String
  rest : String
  stem : String
  last : String
  name_eq : name = before ++ "\x7bversion\x7d" ++ rest
  last_place : Text.contains rest "\x7bversion\x7d" = false
  version_eq : version = stem ++ "." ++ last
  last_dot : '.' ∉ last.toList
  not_first : before ≠ "" ∨ stem ≠ ""

namespace VersionDot

variable {name version : String}

/- What stands behind the dot in the filled name. -/
def extension (d : VersionDot name version) : String :=
  d.last ++ d.rest

/- A dot is given by the characters around it and its place. -/
def ofParts
    {before rest stem last : List Char}
    (hName : name.toList = before ++ "\x7bversion\x7d".toList ++ rest)
    (hPlace : ¬ "\x7bversion\x7d".toList <:+: rest)
    (hVersion : version.toList = stem ++ '.' :: last)
    (hLast : '.' ∉ last)
    (hNotFirst : ¬ (before = [] ∧ stem = [])) :
    VersionDot name version where
  before := String.ofList before
  rest := String.ofList rest
  stem := String.ofList stem
  last := String.ofList last
  name_eq := String.toList_inj.mp (by simpa using hName)
  last_place := by
    have hRest : (String.ofList rest).toList = rest :=
      String.toList_ofList
    rwa [Bool.eq_false_iff, ne_eq, Text.contains_iff, hRest]
  version_eq := String.toList_inj.mp (by simpa using hVersion)
  last_dot := by rwa [String.toList_ofList]
  not_first := by
    have hEmpty {cs : List Char} (hIs : String.ofList cs = "") :
        cs = [] := by
      simpa using congrArg String.toList hIs
    rw [not_and_or] at hNotFirst
    exact hNotFirst.imp (mt hEmpty) (mt hEmpty)

end VersionDot

section Filled

variable {name version : String}

/- What a version is made of around its last dot. -/
theorem exists_last_dot
    {cs : List Char}
    (hMem : '.' ∈ cs) :
    ∃ stem last, cs = stem ++ '.' :: last ∧ '.' ∉ last := by
  have hOccurs : ['.'] <:+: cs := (List.singleton_infix_iff '.' cs).mpr hMem
  rcases Text.exists_last_infix (List.cons_ne_nil '.' []) hOccurs with
    ⟨stem, last, hChars, hLast⟩
  refine ⟨stem, last, ?_, mt (List.singleton_infix_iff '.' last).mpr hLast⟩
  rw [hChars, List.append_assoc]
  rfl

/- The last dot of the version divides the filled name. -/
theorem extensionOfName_divided
    {before rest stem last : List Char}
    (hDot : '.' ∉ name.toList)
    (hName : name.toList = before ++ "\x7bversion\x7d".toList ++ rest)
    (hPlace : ¬ "\x7bversion\x7d".toList <:+: rest)
    (hVersion : version.toList = stem ++ '.' :: last)
    (hLast : '.' ∉ last) :
    Path.extensionOfName
        (Text.replaceAll name "\x7bversion\x7d" version).toList =
      if before = [] ∧ stem = [] then none else some (last ++ rest) := by
  let front := Text.replaceFrom "\x7bversion\x7d".toList version.toList 0
    before
  have hFront : front = [] ↔ before = [] := by
    apply Text.replaceFrom_eq_nil_iff
    rw [hVersion]
    simp
  have hFilled :
      (Text.replaceAll name "\x7bversion\x7d" version).toList =
        (front ++ stem) ++ '.' :: (last ++ rest) := by
    have hBegin : '{' ∉ "version\x7d".toList := by decide
    have hAround :=
      Text.replaceFrom_around_last hBegin version.toList before hPlace
    rw [Text.toList_replaceAll, hName]
    refine hAround.trans ?_
    change front ++ (version.toList ++ rest) = _
    rw [hVersion, List.append_assoc, List.append_assoc,
      List.cons_append]
  have hTail : '.' ∉ last ++ rest := by
    intro hMem
    rcases List.mem_append.mp hMem with hMem | hMem
    · exact hLast hMem
    · exact hDot (hName ▸ List.mem_append_right _ hMem)
  rw [hFilled, Path.extensionOfName_append _ hTail]
  simp only [List.append_eq_nil_iff, hFront]

/- A version without a dot, or without a place, adds none. -/
theorem extensionOfName_undotted
    (hDot : '.' ∉ name.toList)
    (hVersion : '.' ∉ version.toList ∨
      ¬ "\x7bversion\x7d".toList <:+: name.toList) :
    Path.extensionOfName
        (Text.replaceAll name "\x7bversion\x7d" version).toList =
      none := by
  apply Path.extensionOfName_of_not_mem
  rcases hVersion with hUndotted | hMissing
  · exact Text.not_mem_replaceAll hUndotted hDot
  · have hPlace : "\x7bversion\x7d".toList = '{' :: "version\x7d".toList :=
      rfl
    rw [hPlace] at hMissing
    rwa [Text.toList_replaceAll, hPlace,
      Text.replaceFrom_of_not_infix _ hMissing]

/- What stands behind a dot that counts is the extension. -/
theorem VersionDot.extensionOfName_eq
    (hDot : '.' ∉ name.toList)
    (d : VersionDot name version) :
    Path.extensionOfName
        (Text.replaceAll name "\x7bversion\x7d" version).toList =
      some d.extension.toList := by
  have hName := congrArg String.toList d.name_eq
  have hVersion := congrArg String.toList d.version_eq
  have hSeparator : ".".toList = ['.'] := rfl
  rw [String.toList_append, String.toList_append] at hName hVersion
  rw [hSeparator, List.append_assoc, List.singleton_append] at hVersion
  have hPlace : ¬ "\x7bversion\x7d".toList <:+: d.rest.toList := by
    rw [← Text.contains_iff, d.last_place]
    exact Bool.false_ne_true
  have hNotFirst : ¬ (d.before.toList = [] ∧ d.stem.toList = []) := by
    rw [String.toList_eq_nil_iff, String.toList_eq_nil_iff, not_and_or]
    exact d.not_first
  unfold VersionDot.extension
  rw [extensionOfName_divided hDot hName hPlace hVersion d.last_dot,
    if_neg hNotFirst, String.toList_append]

/- If no dot of the version counts, the name has no extension. -/
theorem extensionOfName_of_isEmpty
    (hDot : '.' ∉ name.toList)
    (hNone : IsEmpty (VersionDot name version)) :
    Path.extensionOfName
        (Text.replaceAll name "\x7bversion\x7d" version).toList =
      none := by
  by_cases hOccurs : "\x7bversion\x7d".toList <:+: name.toList
  · by_cases hMem : '.' ∈ version.toList
    · rcases Text.exists_last_infix (by simp) hOccurs with
        ⟨before, rest, hName, hPlace⟩
      rcases exists_last_dot hMem with ⟨stem, last, hVersion, hLast⟩
      rw [extensionOfName_divided hDot hName hPlace hVersion hLast,
        if_pos]
      -- The dot would count if something were in front of it.
      by_contra hNotFirst
      exact hNone.false (.ofParts hName hPlace hVersion hLast hNotFirst)
    · exact extensionOfName_undotted hDot (.inl hMem)
  · exact extensionOfName_undotted hDot (.inr hOccurs)

/- No dot counts where there is no place for the version. -/
theorem VersionDot.contains_of_nonempty
    (d : VersionDot name version) :
    Text.contains name "\x7bversion\x7d" = true := by
  have hName := congrArg String.toList d.name_eq
  rw [String.toList_append, String.toList_append] at hName
  rw [Text.contains_iff, hName]
  exact List.infix_append _ _ _

/- A version without dots has none that counts. -/
theorem isEmpty_of_undotted
    (hVersion : '.' ∉ version.toList) :
    IsEmpty (VersionDot name version) := by
  refine ⟨fun d => hVersion ?_⟩
  have hChars := congrArg String.toList d.version_eq
  rw [String.toList_append, String.toList_append] at hChars
  rw [hChars]
  simp

/- If there is a place, some versions have a dot that counts. -/
theorem exists_versionDot
    (hPlace : Text.contains name "\x7bversion\x7d" = true) :
    ∃ d : VersionDot name "a.c", d.extension ≠ "bin" := by
  rcases Text.exists_last_infix (by simp) (Text.contains_iff.mp hPlace) with
    ⟨before, rest, hName, hLast⟩
  have hVersion : "a.c".toList = ['a'] ++ '.' :: ['c'] := by decide
  refine ⟨.ofParts hName hLast hVersion (by decide) (by simp), ?_⟩
  intro hEq
  have hChars := congrArg String.toList hEq
  unfold VersionDot.extension VersionDot.ofParts at hChars
  simp at hChars

end Filled

------------------------------------------------------------
-- Outputs
------------------------------------------------------------

namespace Assembly

/- What is read where the output of a member is configured. -/
def output
    (c : ArtifactsConfig)
    (kind : ArtifactKind)
    (artifact root : String)
    (v : Version)
    (bytes : Bytes) : Artifact where
  kind := kind
  path := outputPath root c artifact v kind
  bytes := bytes

/- What is read has the bytes of its file. -/
theorem eq_output_of_readOutput
    {c : ArtifactsConfig}
    {kind : ArtifactKind}
    {artifact root : String}
    {v : Version}
    {t : FileTree}
    {a : Artifact}
    (hRead :
      readOutput t kind (outputPath root c artifact v kind) = .ok a) :
    t.read (outputPath root c artifact v kind) = .ok a.bytes ∧
      a = output c kind artifact root v a.bytes := by
  unfold readOutput at hRead
  split at hRead
  · next bytes hBytes =>
      cases hRead
      exact ⟨hBytes, rfl⟩
  · cases hRead

section Undotted

variable {c : ArtifactsConfig} {kind : ArtifactKind}
variable {artifact name : String} {v : Version}
variable (hName : Path.fileName? (c.member kind).path = some name)
variable (hDot : '.' ∉ name.toList)
variable (hArtifact : isPathSegment artifact = true)
variable (hUndotted : '.' ∉ artifact.toList)

include hName hArtifact in
/- An output has the name that is configured, filled in. -/
theorem fileName?_output
    (root : String)
    (v : Version)
    (bytes : Bytes) :
    Path.fileName? (output c kind artifact root v bytes).path =
      some (Text.replaceAll
        (Text.replaceAll name "\x7bartifact\x7d" artifact)
        "\x7bversion\x7d" v.text) := by
  unfold output outputPath ArtifactConfig.expand
  have hFilled :=
    Path.fileName?_replaceAll Path.isPlaceholder_artifact
      (isName_of_isPathSegment hArtifact) hName
  have hExpanded :=
    Path.fileName?_replaceAll Path.isPlaceholder_version
      (isName_of_isPathSegment v.segment) hFilled
  dsimp only
  rw [Path.fileName?_join root hExpanded]

include hDot hUndotted in
theorem not_mem_filled :
    '.' ∉ (Text.replaceAll name "\x7bartifact\x7d" artifact).toList :=
  Text.not_mem_replaceAll hUndotted hDot

include hName hDot hArtifact hUndotted

theorem extension_of_versionDot
    (d : VersionDot (Text.replaceAll name "\x7bartifact\x7d" artifact)
      v.text)
    (root : String)
    (bytes : Bytes) :
    (output c kind artifact root v bytes).extension =
      if Text.endsWith
          (Text.replaceAll
            (Text.replaceAll name "\x7bartifact\x7d" artifact)
            "\x7bversion\x7d" v.text)
          ".tar.gz" then
        "tar.gz"
      else
        d.extension := by
  rw [Artifact.extension_of_fileName
      (fileName?_output hName hArtifact root v bytes),
    d.extensionOfName_eq (not_mem_filled hDot hUndotted)]
  dsimp only
  rw [String.ofList_toList]

theorem extension_of_isEmpty
    (hNone : IsEmpty (VersionDot
      (Text.replaceAll name "\x7bartifact\x7d" artifact) v.text))
    (root : String)
    (bytes : Bytes) :
    (output c kind artifact root v bytes).extension = "bin" := by
  rw [Artifact.extension_of_fileName
      (fileName?_output hName hArtifact root v bytes),
    extensionOfName_of_isEmpty (not_mem_filled hDot hUndotted) hNone]

theorem extension_eq_bin_iff
    (root : String)
    (bytes : Bytes) :
    (output c kind artifact root v bytes).extension = "bin" ↔
      ∀ d : VersionDot
          (Text.replaceAll name "\x7bartifact\x7d" artifact) v.text,
        d.extension = "bin" := by
  constructor
  · intro hBin d
    rw [extension_of_versionDot hName hDot hArtifact hUndotted d] at hBin
    split at hBin
    · exact absurd hBin (by decide)
    · exact hBin
  · intro hAll
    rcases isEmpty_or_nonempty (VersionDot
        (Text.replaceAll name "\x7bartifact\x7d" artifact) v.text) with
      hNone | ⟨⟨d⟩⟩
    · exact extension_of_isEmpty hName hDot hArtifact hUndotted hNone root
        bytes
    · rw [extension_of_versionDot hName hDot hArtifact hUndotted d, if_neg]
      · exact hAll d
      · intro hArchive
        have hGz := Artifact.extensionOfName_of_archive hArchive
        rw [d.extensionOfName_eq (not_mem_filled hDot hUndotted),
          hAll d] at hGz
        exact absurd hGz (by decide)

end Undotted

/-
  An output for which a name without dots is configured has
  the extension `bin` when it is read, unless a dot of the
  version gives it another.  All versions give it the same one
  if and only if the version has no place in the name.
-/
theorem extension_of_undotted_name
    {c : ArtifactsConfig}
    {kind : ArtifactKind}
    {artifact name : String}
    (hName : Path.fileName? (c.member kind).path = some name)
    (hDot : '.' ∉ name.toList)
    (hArtifact : isPathSegment artifact = true)
    (hUndotted : '.' ∉ artifact.toList) :
    let filled := Text.replaceAll name "\x7bartifact\x7d" artifact
    (∀ (root : String) (v : Version) (t : FileTree) (a : Artifact),
      readOutput t kind (outputPath root c artifact v kind) = .ok a →
        t.read (outputPath root c artifact v kind) = .ok a.bytes ∧
          a = output c kind artifact root v a.bytes) ∧
    (∀ (root : String) (v : Version) (bytes : Bytes),
      (∀ d : VersionDot filled v.text,
        (output c kind artifact root v bytes).extension =
          if Text.endsWith
              (Text.replaceAll filled "\x7bversion\x7d" v.text)
              ".tar.gz" then
            "tar.gz"
          else
            d.extension) ∧
      ((output c kind artifact root v bytes).extension = "bin" ↔
        ∀ d : VersionDot filled v.text, d.extension = "bin") ∧
      ∀ l : Layout,
        l.artifactPath (output c kind artifact root v bytes) =
            l.place (Layout.suffixOf kind ++ ".bin") ↔
          ∀ d : VersionDot filled v.text, d.extension = "bin") ∧
    ((∀ (root : String) (v : Version) (bytes : Bytes),
        (output c kind artifact root v bytes).extension = "bin") ↔
      Text.contains filled "\x7bversion\x7d" = false) ∧
    ((∀ (root : String) (v w : Version) (bytes : Bytes),
        (output c kind artifact root v bytes).extension =
          (output c kind artifact root w bytes).extension) ↔
      Text.contains filled "\x7bversion\x7d" = false) := by
  intro filled
  have hBin (root : String) (v : Version) (bytes : Bytes) :
      (output c kind artifact root v bytes).extension = "bin" ↔
        ∀ d : VersionDot filled v.text, d.extension = "bin" :=
    extension_eq_bin_iff hName hDot hArtifact hUndotted root bytes
  have hPlain (root : String) (v : Version) (bytes : Bytes)
      (hMissing : Text.contains filled "\x7bversion\x7d" = false) :
      (output c kind artifact root v bytes).extension = "bin" := by
    rw [hBin]
    intro d
    exact absurd d.contains_of_nonempty (Bool.eq_false_iff.mp hMissing)
  -- One version without a dot and one with a dot are told apart.
  let undotted : Version := { text := "1", segment := by decide }
  let dotted : Version := { text := "a.c", segment := by decide }
  have hUndottedBin :
      (output c kind artifact "" undotted []).extension = "bin" := by
    rw [hBin]
    intro d
    exact ((isEmpty_of_undotted (by decide)).false d).elim
  have hDotted
      (hSame : (output c kind artifact "" dotted []).extension = "bin") :
      Text.contains filled "\x7bversion\x7d" = false := by
    apply Bool.eq_false_iff.mpr
    intro hPlace
    rcases exists_versionDot hPlace with ⟨d, hOther⟩
    exact hOther ((hBin "" dotted []).mp hSame d)
  refine ⟨fun root v t a => eq_output_of_readOutput,
    fun root v bytes => ⟨fun d => ?_, hBin root v bytes, fun l => ?_⟩,
    ⟨fun hAll => hDotted (hAll "" dotted []),
      fun hMissing root v bytes => hPlain root v bytes hMissing⟩,
    ⟨fun hSame => hDotted ?_, fun hMissing root v w bytes => ?_⟩⟩
  · exact extension_of_versionDot hName hDot hArtifact hUndotted d root
      bytes
  · rw [← hBin root v bytes]
    exact l.artifactPath_eq_place_bin_iff _
  · rw [hSame "" dotted undotted [], hUndottedBin]
  · rw [hPlain root v bytes hMissing, hPlain root w bytes hMissing]

end Assembly

namespace Sample

/- Outputs of which the binary has no extension. -/
def undottedConfig : ArtifactsConfig where
  binary := { path := "out/\x7bartifact\x7d-\x7bversion\x7d", build := [] }
  sources := { path := "s.jar", build := [] }
  docs := { path := "d.jar", build := [] }

/- The last number of a version passes for an extension. -/
def numberDot : VersionDot "query-\x7bversion\x7d" "2.1.0" where
  before := "query-"
  rest := ""
  stem := "2.1"
  last := "0"
  name_eq := by decide
  last_place := by decide
  version_eq := by decide
  last_dot := by decide
  not_first := .inl (by decide)

end Sample

/- The binary of version 2.1.0 has the extension 0. -/
theorem Assembly.sample_extension_of_undotted_name :
    let version : Version := { text := "2.1.0", segment := by decide }
    (output Sample.undottedConfig .binary "query" "/p" version []).extension =
        "0" ∧
      ¬ ∀ (root : String) (v : Version) (bytes : Bytes),
        (output Sample.undottedConfig .binary "query" root v
          bytes).extension = "bin" := by
  intro version
  have hName :
      Path.fileName? (Sample.undottedConfig.member .binary).path =
        some "\x7bartifact\x7d-\x7bversion\x7d" := by
    decide
  have hArtifact : isPathSegment "query" = true := by decide
  rcases extension_of_undotted_name hName (by decide) hArtifact
      (by decide) with
    ⟨-, hOutputs, hAlways, -⟩
  have hFilled :
      Text.replaceAll "\x7bartifact\x7d-\x7bversion\x7d"
        "\x7bartifact\x7d" "query" = "query-\x7bversion\x7d" := by
    decide
  rw [hFilled] at hOutputs hAlways
  constructor
  · rw [(hOutputs "/p" version []).1 Sample.numberDot]
    decide
  · rw [hAlways]
    decide

end ReleasePipeline
