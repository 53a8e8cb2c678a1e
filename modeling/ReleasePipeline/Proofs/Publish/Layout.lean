import Mathlib.Data.List.Nodup
import ReleasePipeline.Proofs.Files.Tree
import ReleasePipeline.Publish.Upload

/-
  This file proves which files of a release share a path.  All
  of them are in one directory, under names that begin alike
  and differ in their tails.  The tail of the binary is that
  of the metadata document if its extension is `json`, and no
  two other documents have the same one.

  Key definitions include:
    * `StoredDocument`, `SignedRelease.documents`
    * `Layout.place`

  Main declarations:
    * `Artifact.extension_cases`
    * `Layout.apart_place`
    * `SignedRelease.nodup_paths_iff`
-/

------------------------------------------------------------
-- Documents
------------------------------------------------------------

namespace ReleasePipeline

/- A document of a release, where it goes and its signature. -/
structure StoredDocument where
  path : String
  bytes : Bytes
  signature : Bytes

namespace StoredDocument

/- The files of a document in the order in which they are stored. -/
def files (d : StoredDocument) : List (String × Bytes) :=
  [(d.path, d.bytes), (d.path ++ ".asc", d.signature),
    (d.path ++ ".sha256", Utf8.encode (Sha256.hexDigest d.bytes))]

/- What the paths of the files of a document end in. -/
def endings : List String :=
  ["", ".asc", ".sha256"]

/- The paths of the files of a document. -/
def paths (d : StoredDocument) : List String :=
  endings.map (d.path ++ ·)

/- The files of one document do not replace each other. -/
theorem nodup_paths (d : StoredDocument) : d.paths.Nodup := by
  have hEndings : endings.Nodup := by decide
  apply hEndings.map
  intro e f hEq
  exact (String.append_right_inj d.path).mp hEq

end StoredDocument

namespace SignedRelease

/- The outputs of a release, each with its signature. -/
def outputs (r : SignedRelease) : List StoredDocument :=
  let path := (Layout.ofMetadata r.metadata).artifactPath
  [{ path := path r.artifacts.binary
     bytes := r.artifacts.binary.bytes
     signature := r.binarySignature },
    { path := path r.artifacts.sources
      bytes := r.artifacts.sources.bytes
      signature := r.sourcesSignature },
    { path := path r.artifacts.docs
      bytes := r.artifacts.docs.bytes
      signature := r.docsSignature }]

/- The metadata document of a release with its signature. -/
def record (r : SignedRelease) : StoredDocument where
  path := (Layout.ofMetadata r.metadata).metadataPath
  bytes := r.document
  signature := r.documentSignature

/- The outputs and then the metadata document. -/
def documents (r : SignedRelease) : List StoredDocument :=
  r.outputs ++ [r.record]

end SignedRelease

------------------------------------------------------------
-- Extensions
------------------------------------------------------------

namespace Path

/- No slash stands in the name of a file. -/
theorem not_mem_fileName
    {p name : String}
    (hName : fileName? p = some name) :
    '/' ∉ name.toList := by
  unfold fileName? at hName
  split at hName
  · next text hLast =>
      cases hName
      have hMem := List.mem_of_getLast? hLast
      unfold components at hMem
      rcases List.mem_append.mp hMem with hStart | hPiece
      · split at hStart
        · simp at hStart
        · split at hStart <;> simp at hStart
      · rcases List.mem_filterMap.mp hPiece with
          ⟨piece, hRaw, hComponent⟩
        have hSplit : '/' ∉ piece := by
          unfold rawPieces at hRaw
          split at hRaw
          · exact Text.not_mem_of_mem_splitAt hRaw
          · exact Text.not_mem_of_mem_splitAt hRaw
        unfold pieceComponent at hComponent
        split at hComponent
        · cases hComponent
        · split at hComponent
          · cases hComponent
          · cases hComponent
            rw [String.toList_ofList]
            exact hSplit
  · cases hName

/- An extension is a part of a name without a dot. -/
theorem extensionOfName_eq_some
    {name ext : List Char}
    (hExt : extensionOfName name = some ext) :
    '.' ∉ ext ∧ ext ⊆ name := by
  unfold extensionOfName at hExt
  dsimp only at hExt
  split at hExt
  · cases hExt
  · cases hExt
    constructor
    · intro hDot
      have hAll :=
        List.all_takeWhile (p := (· != '.')) (l := name.reverse)
      have hTest :=
        List.all_eq_true.mp hAll '.' (List.mem_reverse.mp hDot)
      simp at hTest
    · intro c hMem
      have hSub :=
        List.takeWhile_sublist (p := (· != '.')) (l := name.reverse)
      exact List.mem_reverse.mp (hSub.subset (List.mem_reverse.mp hMem))

end Path

/- An extension is the double one, or it has no dot. -/
theorem Artifact.extension_cases (a : Artifact) :
    a.extension = "tar.gz" ∨
      ('.' ∉ a.extension.toList ∧ '/' ∉ a.extension.toList) := by
  unfold extension
  dsimp only
  split
  · exact .inl rfl
  · right
    cases hExt : Path.extension? a.path with
    | none => decide
    | some ext =>
        unfold Path.extension? at hExt
        cases hName : Path.fileName? a.path with
        | none =>
            rw [hName] at hExt
            cases hExt
        | some name =>
            rw [hName] at hExt
            cases hPart : Path.extensionOfName name.toList with
            | none =>
                simp only [Option.bind_eq_bind, Option.bind_some,
                  hPart] at hExt
                cases hExt
            | some part =>
                simp only [Option.bind_eq_bind, Option.bind_some,
                  hPart] at hExt
                cases hExt
                rcases Path.extensionOfName_eq_some hPart with
                  ⟨hDot, hPart⟩
                simp only [Option.getD_some, String.toList_ofList]
                refine ⟨hDot, ?_⟩
                intro hSlash
                exact Path.not_mem_fileName hName (hPart hSlash)

------------------------------------------------------------
-- Tails
------------------------------------------------------------

namespace StoredDocument

/- An ending is empty or begins with a dot. -/
theorem takeWhile_ending
    {e : String}
    (hEnding : e ∈ endings) :
    e.toList.takeWhile (· != '.') = [] := by
  simp only [endings, List.mem_cons, List.not_mem_nil, or_false]
    at hEnding
  rcases hEnding with rfl | rfl | rfl <;> decide

/- Behind texts without dots, endings tell nothing apart. -/
theorem eq_of_append_ending
    {x y : List Char}
    {e f : String}
    (hFirst : '.' ∉ x)
    (hSecond : '.' ∉ y)
    (hEnding : e ∈ endings)
    (hOther : f ∈ endings)
    (hEq : x ++ e.toList = y ++ f.toList) :
    x = y := by
  have hTake
      {z : List Char}
      {g : String}
      (hDot : '.' ∉ z)
      (hMem : g ∈ endings) :
      (z ++ g.toList).takeWhile (· != '.') = z := by
    rw [List.takeWhile_append_of_pos, takeWhile_ending hMem,
      List.append_nil]
    intro c hChar
    simp only [bne_iff_ne, ne_eq]
    intro hIs
    exact hDot (hIs ▸ hChar)
  rw [← hTake hFirst hEnding, hEq, hTake hSecond hOther]

end StoredDocument

namespace Layout

/- The beginning of every file name of a release. -/
def stem (l : Layout) : String :=
  l.artifact ++ "-" ++ l.version

/- The path of a file of which the tail of the name is given. -/
def place
    (l : Layout)
    (tail : String) : String :=
  l.directory ++ "/" ++ (l.stem ++ tail)

/- The tail of the name of an artifact. -/
def tailOf (a : Artifact) : String :=
  suffixOf a.kind ++ "." ++ a.extension

theorem artifactPath_eq_place
    (l : Layout)
    (a : Artifact) :
    l.artifactPath a = l.place (tailOf a) := by
  simp only [artifactPath, place, stem, tailOf, String.append_assoc]
  rfl

theorem metadataPath_eq_place (m : ReleaseMetadata) :
    (ofMetadata m).metadataPath = (ofMetadata m).place ".json" := by
  simp only [metadataPath, place, stem, ofMetadata,
    ReleaseMetadata.fileName, String.append_assoc]
  rfl

theorem place_append
    (l : Layout)
    (tail ending : String) :
    l.place tail ++ ending = l.place (tail ++ ending) := by
  simp only [place, String.append_assoc]

theorem place_inj
    {l : Layout}
    {s t : String} :
    l.place s = l.place t ↔ s = t := by
  unfold place
  rw [String.append_right_inj, String.append_right_inj]

------------------------------------------------------------
-- Tails That Differ
------------------------------------------------------------

/- Tails that stay different with any endings behind them. -/
def TailsDiffer (s t : String) : Prop :=
  ∀ e ∈ StoredDocument.endings, ∀ f ∈ StoredDocument.endings,
    s ++ e ≠ t ++ f

/- What stands in front of both tails does not matter. -/
theorem tailsDiffer_append_left
    {s t : String}
    (hDiffer : TailsDiffer s t)
    (front : String) :
    TailsDiffer (front ++ s) (front ++ t) := by
  intro e hEnding f hOther hEq
  rw [String.append_assoc, String.append_assoc,
    String.append_right_inj] at hEq
  exact hDiffer e hEnding f hOther hEq

/- Tails differ if they begin with different texts of one length. -/
theorem tailsDiffer_of_heads
    {a b : String}
    (hLength : a.toList.length = b.toList.length)
    (hNe : a ≠ b)
    (s t : String) :
    TailsDiffer (a ++ s) (b ++ t) := by
  intro e _ f _ hEq
  have hChars := congrArg String.toList hEq
  simp only [String.toList_append, List.append_assoc] at hChars
  have hHeads := (List.append_inj hChars hLength).1
  exact hNe (String.toList_inj.mp hHeads)

/- What the tail of the name of an artifact begins with. -/
theorem tailOf_binary
    {a : Artifact}
    (hKind : a.kind = .binary) :
    tailOf a = "." ++ a.extension := by
  simp only [tailOf, suffixOf, hKind, ArtifactKind.classifier,
    String.empty_append]

theorem tailOf_sources
    {a : Artifact}
    (hKind : a.kind = .sources) :
    tailOf a = "-" ++ ("s" ++ ("ources" ++ ("." ++ a.extension))) := by
  unfold tailOf suffixOf
  rw [hKind, ← String.append_assoc, ← String.append_assoc,
    ← String.append_assoc]
  rfl

theorem tailOf_docs
    {a : Artifact}
    (hKind : a.kind = .docs) :
    tailOf a = "-" ++ ("d" ++ ("ocs" ++ ("." ++ a.extension))) := by
  unfold tailOf suffixOf
  rw [hKind, ← String.append_assoc, ← String.append_assoc,
    ← String.append_assoc]
  rfl

/- The binary has no tail that sources or documentation have. -/
theorem tailsDiffer_of_binary
    {a a' : Artifact}
    (hKind : a.kind = .binary)
    (hOther : a'.kind ≠ .binary) :
    TailsDiffer (tailOf a) (tailOf a') := by
  rw [tailOf_binary hKind]
  cases hKind' : a'.kind with
  | binary => exact absurd hKind' hOther
  | sources =>
      rw [tailOf_sources hKind']
      apply tailsDiffer_of_heads <;> decide
  | docs =>
      rw [tailOf_docs hKind']
      apply tailsDiffer_of_heads <;> decide

/- Sources and documentation have no tail in common. -/
theorem tailsDiffer_of_sources_of_docs
    {a a' : Artifact}
    (hKind : a.kind = .sources)
    (hOther : a'.kind = .docs) :
    TailsDiffer (tailOf a) (tailOf a') := by
  rw [tailOf_sources hKind, tailOf_docs hOther]
  apply tailsDiffer_append_left
  apply tailsDiffer_of_heads <;> decide

/- Only the binary can have the tail of the metadata document. -/
theorem tailsDiffer_json_of_not_binary
    {a : Artifact}
    (hKind : a.kind ≠ .binary) :
    TailsDiffer (tailOf a) ".json" := by
  have hJson : ".json" = "." ++ "json" := rfl
  rw [hJson]
  cases hKind' : a.kind with
  | binary => exact absurd hKind' hKind
  | sources =>
      rw [tailOf_sources hKind']
      apply tailsDiffer_of_heads <;> decide
  | docs =>
      rw [tailOf_docs hKind']
      apply tailsDiffer_of_heads <;> decide

/- The binary has that tail through its extension alone. -/
theorem tailsDiffer_json_of_extension
    {a : Artifact}
    (hKind : a.kind = .binary)
    (hExt : a.extension ≠ "json") :
    TailsDiffer (tailOf a) ".json" := by
  have hJson : ".json" = "." ++ "json" := rfl
  rw [tailOf_binary hKind, hJson]
  apply tailsDiffer_append_left
  intro e hEnding f hOther hEq
  rcases a.extension_cases with hDouble | ⟨hDot, -⟩
  · have hHeads : TailsDiffer ("t" ++ "ar.gz") ("j" ++ "son") := by
      apply tailsDiffer_of_heads <;> decide
    rw [hDouble] at hEq
    exact hHeads e hEnding f hOther hEq
  · have hChars := congrArg String.toList hEq
    simp only [String.toList_append] at hChars
    have hSame :=
      StoredDocument.eq_of_append_ending hDot (by decide) hEnding
        hOther hChars
    exact hExt (String.toList_inj.mp hSame)

end Layout

------------------------------------------------------------
-- Shared Paths
------------------------------------------------------------

/- Every output of a set is of the kind that it stands for. -/
structure ArtifactSet.KindsMatch (s : ArtifactSet) : Prop where
  binary : s.binary.kind = .binary
  sources : s.sources.kind = .sources
  docs : s.docs.kind = .docs

namespace SignedRelease

/- The paths of an upload are those of the documents. -/
theorem map_path_uploadPlan (r : SignedRelease) :
    (uploadPlan (Layout.ofMetadata r.metadata) r).map (·.path) =
      r.documents.flatMap StoredDocument.paths := by
  simp only [uploadPlan, members, signedFiles, documents, outputs,
    record, StoredDocument.paths, StoredDocument.endings,
    List.flatMap_cons, List.flatMap_nil, List.flatMap_append,
    List.map_append, List.map_cons, List.map_nil, List.append_nil,
    String.append_empty]

/- Documents whose tails differ have no path in common. -/
theorem disjoint_of_tailsDiffer
    {l : Layout}
    {d d' : StoredDocument}
    {s t : String}
    (hPath : d.path = l.place s)
    (hPath' : d'.path = l.place t)
    (hDiffer : Layout.TailsDiffer s t) :
    d.paths.Disjoint d'.paths := by
  intro path hMem hMem'
  rcases List.mem_map.mp hMem with ⟨e, hEnding, rfl⟩
  rcases List.mem_map.mp hMem' with ⟨f, hOther, hEq⟩
  rw [hPath, hPath', Layout.place_append, Layout.place_append,
    Layout.place_inj] at hEq
  exact hDiffer e hEnding f hOther hEq.symm

variable {r : SignedRelease}

/- Apart from the binary, no two documents share a path. -/
theorem pairwise_disjoint_tail (hKinds : r.artifacts.KindsMatch) :
    r.documents.tail.Pairwise
      (fun d d' => d.paths.Disjoint d'.paths) := by
  have hPlace (a : Artifact) :=
    (Layout.ofMetadata r.metadata).artifactPath_eq_place a
  have hRecord := Layout.metadataPath_eq_place r.metadata
  have hSources : r.artifacts.sources.kind ≠ .binary := by
    rw [hKinds.sources]
    decide
  have hDocs : r.artifacts.docs.kind ≠ .binary := by
    rw [hKinds.docs]
    decide
  simp only [documents, outputs, List.cons_append, List.nil_append,
    List.tail_cons, List.pairwise_cons, List.mem_cons,
    List.not_mem_nil, or_false, forall_eq_or_imp, forall_eq]
  refine ⟨⟨?_, ?_⟩, ?_, by simp, by simp⟩
  · exact disjoint_of_tailsDiffer (hPlace _) (hPlace _)
      (Layout.tailsDiffer_of_sources_of_docs hKinds.sources
        hKinds.docs)
  · exact disjoint_of_tailsDiffer (hPlace _) hRecord
      (Layout.tailsDiffer_json_of_not_binary hSources)
  · exact disjoint_of_tailsDiffer (hPlace _) hRecord
      (Layout.tailsDiffer_json_of_not_binary hDocs)

/- A binary with the extension of the metadata has its path. -/
theorem artifactPath_binary_of_json
    (hKinds : r.artifacts.KindsMatch)
    (hExt : r.artifacts.binary.extension = "json") :
    (Layout.ofMetadata r.metadata).artifactPath r.artifacts.binary =
      (Layout.ofMetadata r.metadata).metadataPath := by
  rw [Layout.artifactPath_eq_place, Layout.metadataPath_eq_place,
    Layout.tailOf_binary hKinds.binary, hExt]
  rfl

/-
  The binary shares its paths with the metadata document if
  its extension is the one of that document.  Nothing else
  is shared.
-/
theorem pairwise_disjoint_iff (hKinds : r.artifacts.KindsMatch) :
    r.documents.Pairwise (fun d d' => d.paths.Disjoint d'.paths) ↔
      r.artifacts.binary.extension ≠ "json" := by
  constructor
  · intro hPairwise hExt
    have hBinary :=
      (List.pairwise_cons.mp hPairwise).1 r.record (by simp)
    have hSame := artifactPath_binary_of_json hKinds hExt
    apply hBinary (a := r.record.path)
    · simp [StoredDocument.paths, StoredDocument.endings, record, hSame]
    · simp [StoredDocument.paths, StoredDocument.endings]
  · intro hExt
    have hPlace (a : Artifact) :=
      (Layout.ofMetadata r.metadata).artifactPath_eq_place a
    have hRecord := Layout.metadataPath_eq_place r.metadata
    have hSources : r.artifacts.sources.kind ≠ .binary := by
      rw [hKinds.sources]
      decide
    have hDocs : r.artifacts.docs.kind ≠ .binary := by
      rw [hKinds.docs]
      decide
    have hTail := pairwise_disjoint_tail hKinds
    simp only [documents, outputs, List.cons_append, List.nil_append,
      List.tail_cons] at hTail ⊢
    refine List.pairwise_cons.mpr ⟨?_, hTail⟩
    simp only [List.mem_cons, List.not_mem_nil, or_false,
      forall_eq_or_imp, forall_eq]
    refine ⟨?_, ?_, ?_⟩
    · exact disjoint_of_tailsDiffer (hPlace _) (hPlace _)
        (Layout.tailsDiffer_of_binary hKinds.binary hSources)
    · exact disjoint_of_tailsDiffer (hPlace _) (hPlace _)
        (Layout.tailsDiffer_of_binary hKinds.binary hDocs)
    · exact disjoint_of_tailsDiffer (hPlace _) hRecord
        (Layout.tailsDiffer_json_of_extension hKinds.binary hExt)

/- The paths of an upload are distinct under the same condition. -/
theorem nodup_paths_iff (hKinds : r.artifacts.KindsMatch) :
    ((uploadPlan (Layout.ofMetadata r.metadata) r).map
        (·.path)).Nodup ↔
      r.artifacts.binary.extension ≠ "json" := by
  rw [map_path_uploadPlan, List.nodup_flatMap,
    ← pairwise_disjoint_iff hKinds]
  constructor
  · exact fun hNodup => hNodup.2
  · exact fun hPairwise => ⟨fun d _ => d.nodup_paths, hPairwise⟩

end SignedRelease

------------------------------------------------------------
-- Files in One Directory
------------------------------------------------------------

/- What is below a directory is joined to where that is. -/
theorem Repository.resolve_child
    (root directory : String)
    {name : String}
    (hSlash : '/' ∉ name.toList) :
    resolve root (directory ++ "/" ++ name) =
      Path.join (resolve root directory) name := by
  have hPieces :
      Text.pieces '/' (directory ++ "/" ++ name) =
        Text.pieces '/' directory ++ [name] := by
    rw [← Text.pieces_of_not_mem hSlash]
    exact Text.pieces_append rfl directory name
  unfold resolve
  rw [hPieces, List.foldl_append]
  rfl

namespace Layout

/-
  A layout whose artifact and version do not lead to another
  directory.
-/
structure StaysInPlace (l : Layout) : Prop where
  artifact : '/' ∉ l.artifact.toList
  version : Path.IsName l.version

variable {l : Layout}

/- The hyphen keeps a file name from standing for a directory. -/
theorem StaysInPlace.isName
    (hPlain : l.StaysInPlace)
    {tail : String}
    (hTail : '/' ∉ tail.toList) :
    Path.IsName (l.stem ++ tail) := by
  have hHyphen : '-' ∈ (l.stem ++ tail).toList := by
    simp [stem]
  refine ⟨?_, ?_, ?_⟩
  · unfold Path.isIdle
    rw [Bool.or_eq_false_iff, beq_eq_false_iff_ne, beq_eq_false_iff_ne]
    constructor
    · intro hEq
      rw [hEq] at hHyphen
      simp at hHyphen
    · intro hEq
      rw [hEq] at hHyphen
      simp at hHyphen
  · intro hEq
    rw [hEq] at hHyphen
    simp at hHyphen
  · simp [stem, hPlain.artifact, hPlain.version.no_slash, hTail]

/- Files with different tails are at different locations. -/
theorem apart_place
    (hPlain : l.StaysInPlace)
    (root : String)
    {s t : String}
    (hFirst : '/' ∉ s.toList)
    (hSecond : '/' ∉ t.toList)
    (hNe : s ≠ t) :
    Path.Apart (Repository.resolve root (l.place s))
      (Repository.resolve root (l.place t)) := by
  have hName := hPlain.isName hFirst
  have hOther := hPlain.isName hSecond
  unfold place
  rw [Repository.resolve_child root _ hName.no_slash,
    Repository.resolve_child root _ hOther.no_slash]
  apply Path.apart_join _ hName hOther
  intro hEq
  exact hNe ((String.append_right_inj l.stem).mp hEq)

/- A path of a file in the directory of a release. -/
def Holds
    (l : Layout)
    (path : String) : Prop :=
  ∃ tail, path = l.place tail ∧ '/' ∉ tail.toList

/- In that directory, different paths are different files. -/
theorem apart_of_ne
    (hPlain : l.StaysInPlace)
    (root : String)
    {path path' : String}
    (hHolds : l.Holds path)
    (hHolds' : l.Holds path')
    (hNe : path ≠ path') :
    Path.Apart (Repository.resolve root path)
      (Repository.resolve root path') := by
  rcases hHolds with ⟨s, rfl, hFirst⟩
  rcases hHolds' with ⟨t, rfl, hSecond⟩
  apply apart_place hPlain root hFirst hSecond
  intro hEq
  exact hNe (congrArg l.place hEq)

/- The files of a document are in one directory with it. -/
theorem Holds.append_ending
    {path ending : String}
    (hHolds : l.Holds path)
    (hEnding : ending ∈ StoredDocument.endings) :
    l.Holds (path ++ ending) := by
  rcases hHolds with ⟨tail, rfl, hTail⟩
  refine ⟨tail ++ ending, place_append l tail ending, ?_⟩
  have hSlash : '/' ∉ ending.toList := by
    simp only [StoredDocument.endings, List.mem_cons,
      List.not_mem_nil, or_false] at hEnding
    rcases hEnding with rfl | rfl | rfl <;> decide
  simp [hTail, hSlash]

theorem holds_artifactPath
    (l : Layout)
    (a : Artifact) :
    l.Holds (l.artifactPath a) := by
  refine ⟨tailOf a, artifactPath_eq_place l a, ?_⟩
  have hSuffix : '/' ∉ (suffixOf a.kind).toList := by
    cases a.kind <;> decide
  have hExt : '/' ∉ a.extension.toList := by
    rcases a.extension_cases with hDouble | ⟨-, hSlash⟩
    · rw [hDouble]
      decide
    · exact hSlash
  simp [tailOf, hSuffix, hExt]

theorem holds_metadataPath (m : ReleaseMetadata) :
    (ofMetadata m).Holds (ofMetadata m).metadataPath :=
  ⟨".json", metadataPath_eq_place m, by decide⟩

end Layout

/- Every file of an upload is in the directory of the release. -/
theorem SignedRelease.holds_of_mem_uploadPlan
    {r : SignedRelease}
    {f : UploadFile}
    (hFile : f ∈ uploadPlan (Layout.ofMetadata r.metadata) r) :
    (Layout.ofMetadata r.metadata).Holds f.path := by
  have hPath : f.path ∈ r.documents.flatMap StoredDocument.paths := by
    rw [← map_path_uploadPlan]
    exact List.mem_map_of_mem hFile
  rcases List.mem_flatMap.mp hPath with ⟨d, hDocument, hPaths⟩
  rcases List.mem_map.mp hPaths with ⟨ending, hEnding, hEq⟩
  rw [← hEq]
  simp only [documents, outputs, List.cons_append, List.nil_append,
    List.mem_cons, List.not_mem_nil, or_false] at hDocument
  rcases hDocument with rfl | rfl | rfl | rfl
  · exact (Layout.holds_artifactPath _ _).append_ending hEnding
  · exact (Layout.holds_artifactPath _ _).append_ending hEnding
  · exact (Layout.holds_artifactPath _ _).append_ending hEnding
  · exact (Layout.holds_metadataPath _).append_ending hEnding

end ReleasePipeline
