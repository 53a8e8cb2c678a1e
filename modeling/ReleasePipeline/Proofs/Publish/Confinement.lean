import ReleasePipeline.Proofs.Pipeline.ReadBack

/-
  This file proves where the files of a release are in a
  repository.  The names that lead to them are the parts of
  the group, the artifact, the version and one name more, so
  nothing is stored outside the directory of the release, and
  no release replaces a file of another.

  Key definitions include:
    * `Layout.segments`

  Main declarations:
    * `Layout.Confined.pieces_of_holds`
    * `Repository.components_resolve`
    * `Repository.walk_resolve`
    * `Config.uploads_confined`
    * `Config.releases_apart`
-/

------------------------------------------------------------
-- The Directory of a Release
------------------------------------------------------------

namespace ReleasePipeline

namespace Layout

/- The names that lead to the directory of a release. -/
def segments (l : Layout) : List String :=
  Text.pieces '.' l.group ++ [l.artifact, l.version]

variable {l l' : Layout}

theorem Confined.staysInPlace (hConfined : l.Confined) :
    l.StaysInPlace :=
  ⟨hConfined.artifact.no_slash, hConfined.version⟩

theorem Confined.isName_of_mem_segments
    (hConfined : l.Confined)
    {segment : String}
    (hMem : segment ∈ l.segments) :
    Path.IsName segment := by
  unfold segments at hMem
  simp only [List.mem_append, List.mem_cons, List.not_mem_nil,
    or_false] at hMem
  rcases hMem with hPart | rfl | rfl
  · exact hConfined.group segment hPart
  · exact hConfined.artifact
  · exact hConfined.version

/- A slash in the group would be a slash in one of its parts. -/
theorem Confined.no_slash_group (hConfined : l.Confined) :
    '/' ∉ l.group.toList := by
  intro hSlash
  have hDot : '/' ≠ '.' := by decide
  rcases Text.exists_mem_splitAt hSlash hDot with
    ⟨piece, hPiece, hChar⟩
  have hName :=
    hConfined.group (String.ofList piece) (List.mem_map_of_mem hPiece)
  apply hName.no_slash
  rw [String.toList_ofList]
  exact hChar

/- The directory of a release is made of its segments. -/
theorem Confined.pieces_directory (hConfined : l.Confined) :
    Text.pieces '/' l.directory = l.segments := by
  have hGroup :
      Text.pieces '/' l.groupPath = Text.pieces '.' l.group :=
    Text.pieces_replaceAll rfl rfl hConfined.no_slash_group
  have hVersion :
      Text.pieces '/' l.directory =
        Text.pieces '/' (l.groupPath ++ "/" ++ l.artifact) ++
          Text.pieces '/' l.version :=
    Text.pieces_append rfl _ _
  have hArtifact :
      Text.pieces '/' (l.groupPath ++ "/" ++ l.artifact) =
        Text.pieces '/' l.groupPath ++ Text.pieces '/' l.artifact :=
    Text.pieces_append rfl _ _
  rw [hVersion, hArtifact, hGroup,
    Text.pieces_of_not_mem hConfined.artifact.no_slash,
    Text.pieces_of_not_mem hConfined.version.no_slash,
    List.append_assoc]
  rfl

/- The path of a file is made of the segments and a name. -/
theorem Confined.pieces_of_holds
    (hConfined : l.Confined)
    {path : String}
    (hHolds : l.Holds path) :
    ∃ name,
      Path.IsName name ∧
      Text.pieces '/' path = l.segments ++ [name] := by
  rcases hHolds with ⟨tail, rfl, hTail⟩
  have hName := hConfined.staysInPlace.isName hTail
  have hPieces :
      Text.pieces '/' (l.place tail) =
        Text.pieces '/' l.directory ++
          Text.pieces '/' (l.stem ++ tail) :=
    Text.pieces_append rfl _ _
  refine ⟨l.stem ++ tail, hName, ?_⟩
  rw [hPieces, hConfined.pieces_directory,
    Text.pieces_of_not_mem hName.no_slash]

theorem Confined.isName_of_holds
    (hConfined : l.Confined)
    {path : String}
    (hHolds : l.Holds path) :
    ∀ segment ∈ Text.pieces '/' path, Path.IsName segment := by
  rcases hConfined.pieces_of_holds hHolds with ⟨name, hName, hPieces⟩
  intro segment hMem
  rw [hPieces] at hMem
  rcases List.mem_append.mp hMem with hSegment | hLast
  · exact hConfined.isName_of_mem_segments hSegment
  · rw [List.mem_singleton.mp hLast]
    exact hName

/-
  The group, the artifact and the version are known from the
  segments: the last two are the artifact and the version, and
  the parts in front of them make up the group.
-/
theorem segments_injective (hSegments : l.segments = l'.segments) :
    l.group = l'.group ∧ l.artifact = l'.artifact ∧
      l.version = l'.version := by
  rcases List.append_inj' hSegments rfl with ⟨hParts, hRest⟩
  simp only [List.cons.injEq, and_true] at hRest
  exact ⟨Text.pieces_injective hParts, hRest⟩

/- Two releases share a path only if they share the directory. -/
theorem Confined.segments_eq_of_holds
    (hConfined : l.Confined)
    (hConfined' : l'.Confined)
    {path : String}
    (hHolds : l.Holds path)
    (hHolds' : l'.Holds path) :
    l.segments = l'.segments := by
  rcases hConfined.pieces_of_holds hHolds with ⟨name, -, hPieces⟩
  rcases hConfined'.pieces_of_holds hHolds' with ⟨name', -, hPieces'⟩
  rw [hPieces] at hPieces'
  exact (List.append_inj' hPieces' rfl).1

/- The metadata document is among the planned files. -/
theorem mem_paths_uploadPlan
    (l : Layout)
    (r : SignedRelease) :
    l.metadataPath ∈ (uploadPlan l r).map (·.path) := by
  apply List.mem_map.mpr
  refine ⟨{ member := metadataMember, path := l.metadataPath
            bytes := r.document }, ?_, rfl⟩
  exact List.mem_append_right _ List.mem_cons_self

/- Every planned file is in the directory of its layout. -/
theorem holds_of_mem_uploadPlan
    {m : ReleaseMetadata}
    {r : SignedRelease}
    {f : UploadFile}
    (hFile : f ∈ uploadPlan (ofMetadata m) r) :
    (ofMetadata m).Holds f.path :=
  SignedRelease.holds_of_mem_uploadPlan (r := { r with metadata := m })
    hFile

end Layout

------------------------------------------------------------
-- Paths in a Directory
------------------------------------------------------------

namespace Repository

variable {path : String}

/- A path of names is put behind the directory as it is. -/
theorem components_resolve
    (hNames : ∀ segment ∈ Text.pieces '/' path, Path.IsName segment)
    (root : String) :
    Path.components (resolve root path) =
      Path.components root ++ (Text.pieces '/' path).map .name :=
  Path.components_foldl_join hNames root

/- It leads below the location of the directory in any tree. -/
theorem walk_resolve
    (hNames : ∀ segment ∈ Text.pieces '/' path, Path.IsName segment)
    {root : String}
    {t : FileTree}
    {l : Location}
    (hLocate : t.locate (resolve root path) = .ok l) :
    ∃ k, t.walk root = .ok k ∧ l = k ++ Text.pieces '/' path :=
  FileTree.walk_foldl_join hNames (FileTree.walk_of_locate hLocate)

/- Different paths of names are different files. -/
theorem apart_resolve
    {path' : String}
    (hNames : ∀ segment ∈ Text.pieces '/' path, Path.IsName segment)
    (hNames' : ∀ segment ∈ Text.pieces '/' path', Path.IsName segment)
    (hNe : path ≠ path')
    (root : String) :
    Path.Apart (resolve root path) (resolve root path') := by
  intro t l l' hLocate hLocate'
  rcases walk_resolve hNames hLocate with ⟨k, hRoot, rfl⟩
  rcases walk_resolve hNames' hLocate' with ⟨k', hRoot', rfl⟩
  rw [hRoot] at hRoot'
  cases hRoot'
  intro hEq
  exact hNe (Text.pieces_injective (List.append_cancel_left hEq))

end Repository

------------------------------------------------------------
-- Confined Uploads
------------------------------------------------------------

namespace Sample

/- Outputs of a release with signatures that tell them apart. -/
def signedRelease (m : ReleaseMetadata) : SignedRelease where
  artifacts :=
    { binary := { kind := .binary, path := "/p/b.zip", bytes := [1] }
      sources := { kind := .sources, path := "/p/s.zip", bytes := [2] }
      docs := { kind := .docs, path := "/p/d.tar.gz", bytes := [3] } }
  binarySignature := [4]
  sourcesSignature := [5]
  docsSignature := [6]
  metadata := m
  document := m.document
  documentSignature := [7]

/- The file of an output of such a release. -/
def fileOf
    (m : ReleaseMetadata)
    (a : Artifact) : UploadFile where
  member := a.kind.name
  path := (Layout.ofMetadata m).artifactPath a
  bytes := a.bytes

theorem fileOf_mem
    (m : ReleaseMetadata)
    {a : Artifact}
    {signature : Bytes}
    (hMember : (a, signature) ∈ (signedRelease m).members) :
    fileOf m a ∈ uploadPlan (Layout.ofMetadata m) (signedRelease m) := by
  apply List.mem_append_left
  exact List.mem_flatMap.mpr
    ⟨(a, signature), hMember, List.mem_cons_self⟩

/- The sources of the sample release. -/
def sourcesFile : UploadFile :=
  fileOf jsonPlan.metadata
    (signedRelease jsonPlan.metadata).artifacts.sources

theorem sourcesFile_mem :
    sourcesFile ∈
      uploadPlan (Layout.ofMetadata jsonPlan.metadata)
        (signedRelease jsonPlan.metadata) :=
  fileOf_mem _ (List.mem_cons_of_mem _ List.mem_cons_self)

/- A version that is called like the sources of the other. -/
def sourcesVersion : Version :=
  ⟨"1-sources", by decide⟩

/- The binary of that version. -/
def binaryFile : UploadFile :=
  fileOf (config.metadata sourcesVersion)
    (signedRelease (config.metadata sourcesVersion)).artifacts.binary

theorem binaryFile_mem :
    binaryFile ∈
      uploadPlan (Layout.ofMetadata (config.metadata sourcesVersion))
        (signedRelease (config.metadata sourcesVersion)) :=
  fileOf_mem _ List.mem_cons_self

end Sample

namespace Config

/-
  The files of a configured release, whatever its outputs are,
  have paths that are made of the parts of the group, the
  artifact, the version and one name.  None of these is empty
  or leads elsewhere, and below a directory the path is put
  behind that of the directory.  To put a file there, whether
  it succeeds or not, changes no file elsewhere, and makes
  directories only on the way to the file.
-/
theorem uploads_confined
    {text : String}
    {c : Config}
    (hParse : parse text = .ok c)
    {root : String}
    {asked package : Option String}
    {env : Environment}
    {plan : ReleasePlan}
    (hResolve : c.resolve root asked package env = .ok plan)
    {σ : Type}
    {h : Host σ}
    {b : Backend σ}
    {p : Pipeline σ}
    (hPlan : Pipeline.ofPlan plan h b = .ok p)
    (r : SignedRelease)
    {f : UploadFile}
    (hFile : f ∈ uploadPlan (Layout.ofMetadata plan.metadata) r)
    (directory : String) :
    (∃ name,
      Text.pieces '/' f.path =
        Text.pieces '.' c.project.group ++
          [c.project.artifact, plan.version.text, name]) ∧
    (∀ segment ∈ Text.pieces '/' f.path,
      segment ≠ "" ∧ segment ≠ "." ∧ segment ≠ "..") ∧
    Path.components (Repository.resolve directory f.path) =
      Path.components directory ++
        (Text.pieces '/' f.path).map .name ∧
    ∀ (w v : World σ) (result : Except Fault Unit),
      (Repository.atDirectory directory).put f.path f.bytes w =
          (result, v) →
        w.tree.ChangesOnly v.tree
          (fun l =>
            ∃ k, v.tree.walk directory = .ok k ∧
              l = k ++ Text.pieces '/' f.path)
          fun l =>
            ∃ q,
              Path.Above q (Repository.resolve directory f.path) ∧
              v.tree.locate q = .ok l := by
  have hComplete := Pipeline.validate_of_ofPlan hPlan
  rw [metadata_of_resolve hResolve] at hComplete hFile
  have hConfined := confined hParse hComplete
  have hHolds := Layout.holds_of_mem_uploadPlan hFile
  have hNames := hConfined.isName_of_holds hHolds
  refine ⟨?_, ?_, Repository.components_resolve hNames directory, ?_⟩
  · rcases hConfined.pieces_of_holds hHolds with ⟨name, -, hPieces⟩
    refine ⟨name, ?_⟩
    rw [hPieces, Layout.segments, List.append_assoc]
    rfl
  · intro segment hMem
    have hName := hNames segment hMem
    refine ⟨?_, ?_, ?_⟩
    · rintro rfl
      exact hName.ne_nil rfl
    · rintro rfl
      cases hName.not_idle
    · rintro rfl
      exact hName.not_up rfl
  · intro w v result hPut
    rw [Repository.put_atDirectory, Prod.mk.injEq] at hPut
    rcases hPut with ⟨-, rfl⟩
    have hChanges :=
      Repository.storeFile_changesOnly
        (Repository.resolve directory f.path) f.bytes w.tree
    exact hChanges.mono
      (fun _ hPlace => Repository.walk_resolve hNames hPlace)
      fun _ => id

/- The sources of the sample release in a local directory. -/
theorem sample_uploads_confined :
    parse Sample.document = .ok Sample.config ∧
      Sample.config.resolve "/p" none none Sample.environment =
        .ok Sample.jsonPlan ∧
      Pipeline.ofPlan Sample.jsonPlan Sample.host.beside
          Sample.backend.recorded =
        .ok Sample.jsonPipeline ∧
      Sample.sourcesFile.path = "g/a/1/a-1-sources.zip" ∧
      Path.components
          (Repository.resolve "/r" Sample.sourcesFile.path) =
        [.root, .name "r", .name "g", .name "a", .name "1",
          .name "a-1-sources.zip"] := by
  have hPath : Sample.sourcesFile.path = "g/a/1/a-1-sources.zip" := by
    decide +kernel
  have hPlan :
      Pipeline.ofPlan Sample.jsonPlan Sample.host.beside
          Sample.backend.recorded =
        .ok Sample.jsonPipeline :=
    rfl
  refine ⟨Sample.parse_document, Sample.resolve_config, hPlan, hPath,
    ?_⟩
  rcases uploads_confined Sample.parse_document Sample.resolve_config
      hPlan _ Sample.sourcesFile_mem "/r" with
    ⟨-, -, hComponents, -⟩
  rw [hComponents, hPath]
  decide +kernel

------------------------------------------------------------
-- Releases Apart
------------------------------------------------------------

/- What tells one release of a configuration from others. -/
def coordinates
    (c : Config)
    (version : Version) : String × String × String :=
  (c.project.group, c.project.artifact, version.text)

/- Layouts with the same segments have the same coordinates. -/
theorem coordinates_of_segments
    {c c' : Config}
    {version version' : Version}
    (hSegments :
      (Layout.ofMetadata (c.metadata version)).segments =
        (Layout.ofMetadata (c'.metadata version')).segments) :
    c.coordinates version = c'.coordinates version' := by
  rcases Layout.segments_injective hSegments with
    ⟨hGroup, hArtifact, hVersion⟩
  exact Prod.ext hGroup (Prod.ext hArtifact hVersion)

/-
  Two releases with the same coordinates have the same path
  for their metadata documents.
-/
theorem layout_of_coordinates
    {c c' : Config}
    {version version' : Version}
    (hSame : c.coordinates version = c'.coordinates version') :
    Layout.ofMetadata (c.metadata version) =
      Layout.ofMetadata (c'.metadata version') := by
  simp only [coordinates, Prod.mk.injEq] at hSame
  rcases hSame with ⟨hGroup, hArtifact, hVersion⟩
  simp only [Layout.ofMetadata, ReleaseMetadata.fileName, metadata,
    hGroup, hArtifact, hVersion]

/-
  The paths of two complete releases, whatever their outputs
  are, have one in common if and only if the group, the
  artifact and the version are the same.  If one of them is
  not, no files of the two are the same below a directory.
-/
theorem releases_apart
    {text text' : String}
    {c c' : Config}
    (hParse : parse text = .ok c)
    (hParse' : parse text' = .ok c')
    {version version' : Version}
    (hComplete : (c.metadata version).validate = .ok ())
    (hComplete' : (c'.metadata version').validate = .ok ())
    (r r' : SignedRelease) :
    let files :=
      uploadPlan (Layout.ofMetadata (c.metadata version)) r
    let files' :=
      uploadPlan (Layout.ofMetadata (c'.metadata version')) r'
    ((files.map (·.path)).Disjoint (files'.map (·.path)) ↔
      c.coordinates version ≠ c'.coordinates version') ∧
    (c.coordinates version ≠ c'.coordinates version' →
      ∀ f ∈ files, ∀ f' ∈ files', ∀ root,
        Path.components (Repository.resolve root f.path) ≠
          Path.components (Repository.resolve root f'.path) ∧
        Path.Apart (Repository.resolve root f.path)
          (Repository.resolve root f'.path)) := by
  intro files files'
  have hConfined := confined hParse hComplete
  have hConfined' := confined hParse' hComplete'
  have hApart
      (hOther : c.coordinates version ≠ c'.coordinates version')
      {f f' : UploadFile}
      (hFile : f ∈ files)
      (hFile' : f' ∈ files') :
      f.path ≠ f'.path := by
    intro hEq
    have hHolds := Layout.holds_of_mem_uploadPlan hFile
    rw [hEq] at hHolds
    -- The names of the files do not tell, their directories do.
    have hSegments :=
      hConfined.segments_eq_of_holds hConfined' hHolds
        (Layout.holds_of_mem_uploadPlan hFile')
    exact hOther (coordinates_of_segments hSegments)
  refine ⟨⟨?_, ?_⟩, ?_⟩
  · intro hDisjoint hSame
    have hPath :
        (Layout.ofMetadata (c'.metadata version')).metadataPath =
          (Layout.ofMetadata (c.metadata version)).metadataPath := by
      rw [layout_of_coordinates hSame]
    have hRecord :=
      Layout.mem_paths_uploadPlan
        (Layout.ofMetadata (c.metadata version)) r
    have hRecord' :=
      Layout.mem_paths_uploadPlan
        (Layout.ofMetadata (c'.metadata version')) r'
    rw [hPath] at hRecord'
    exact hDisjoint hRecord hRecord'
  · intro hOther path hMem hMem'
    rcases List.mem_map.mp hMem with ⟨f, hFile, rfl⟩
    rcases List.mem_map.mp hMem' with ⟨f', hFile', hEq⟩
    exact hApart hOther hFile hFile' hEq.symm
  · intro hOther f hFile f' hFile' root
    have hNe := hApart hOther hFile hFile'
    have hNames :=
      hConfined.isName_of_holds (Layout.holds_of_mem_uploadPlan hFile)
    have hNames' :=
      hConfined'.isName_of_holds
        (Layout.holds_of_mem_uploadPlan hFile')
    refine ⟨?_, Repository.apart_resolve hNames hNames' hNe root⟩
    rw [Repository.components_resolve hNames root,
      Repository.components_resolve hNames' root]
    intro hEq
    have hPieces :=
      (List.map_inj_right fun _ _ => Path.Component.name.inj).mp
        (List.append_cancel_left hEq)
    exact hNe (Text.pieces_injective hPieces)

/-
  The sources of the one version and the binary of the other
  have the same file name, and still they are apart.
-/
theorem sample_releases_apart :
    parse Sample.document = .ok Sample.config ∧
      Sample.sourcesFile.path = "g/a/1/a-1-sources.zip" ∧
      Sample.binaryFile.path = "g/a/1-sources/a-1-sources.zip" ∧
      Path.Apart (Repository.resolve "/r" Sample.sourcesFile.path)
        (Repository.resolve "/r" Sample.binaryFile.path) := by
  refine ⟨Sample.parse_document, by decide +kernel,
    by decide +kernel, ?_⟩
  have hOther :
      Sample.config.coordinates Sample.jsonPlan.version ≠
        Sample.config.coordinates Sample.sourcesVersion := by
    decide
  have hComplete :
      (Sample.config.metadata Sample.jsonPlan.version).validate =
        .ok () :=
    rfl
  have hComplete' :
      (Sample.config.metadata Sample.sourcesVersion).validate =
        .ok () :=
    rfl
  rcases releases_apart Sample.parse_document Sample.parse_document
      hComplete hComplete' (Sample.signedRelease _)
      (Sample.signedRelease _) with
    ⟨-, hApart⟩
  exact
    (hApart hOther _ Sample.sourcesFile_mem _ Sample.binaryFile_mem
      "/r").2

end Config

end ReleasePipeline
