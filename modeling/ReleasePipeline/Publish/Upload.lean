import ReleasePipeline.Publish.Repository
import ReleasePipeline.Release.Layout

/-
  This file defines what a release uploads and in which order.
  Every artifact, and at last the metadata document, is
  followed by its signature and its digest.  The first upload
  that fails ends the publication.

  Key definitions include:
    * `SignedRelease`
    * `UploadFile`
    * `uploadPlan`
    * `uploadAll`
    * `fetchMetadata`
-/

------------------------------------------------------------
-- Signed Releases
------------------------------------------------------------

namespace ReleasePipeline

/- The artifacts and the metadata with their signatures. -/
structure SignedRelease where
  artifacts : ArtifactSet
  binarySignature : Bytes
  sourcesSignature : Bytes
  docsSignature : Bytes
  metadata : ReleaseMetadata
  document : Bytes
  documentSignature : Bytes
deriving DecidableEq, Repr

/- The artifacts, each with its signature. -/
def SignedRelease.members
    (r : SignedRelease) : List (Artifact × Bytes) :=
  [(r.artifacts.binary, r.binarySignature),
    (r.artifacts.sources, r.sourcesSignature),
    (r.artifacts.docs, r.docsSignature)]

------------------------------------------------------------
-- The Plan
------------------------------------------------------------

/- A file to be stored, and the member that it belongs to. -/
structure UploadFile where
  member : String
  path : String
  bytes : Bytes
deriving DecidableEq, Repr

/- The name that the metadata document has as a member. -/
def metadataMember : String :=
  "metadata"

/- A file with its signature and its digest. -/
def signedFiles
    (member path : String)
    (bytes signature : Bytes) : List UploadFile :=
  [{ member, path, bytes },
    { member, path := path ++ ".asc", bytes := signature },
    { member, path := path ++ ".sha256"
      bytes := Utf8.encode (Sha256.hexDigest bytes) }]

/- Every file of a release in the order of the upload. -/
def uploadPlan
    (l : Layout)
    (r : SignedRelease) : List UploadFile :=
  r.members.flatMap (fun m =>
      signedFiles m.1.kind.name (l.artifactPath m.1) m.1.bytes m.2) ++
    signedFiles metadataMember l.metadataPath r.document
      r.documentSignature

------------------------------------------------------------
-- Uploading
------------------------------------------------------------

/- The failure to store a file. -/
def uploadFault
    (f : UploadFile)
    (location : String)
    (cause : Fault) : Fault :=
  .release (.upload f.member location cause.message)

/- Store files in order, and tell where each of them went. -/
def uploadAll
    {σ : Type}
    (repository : Repository σ) :
    List UploadFile → Action σ (List String)
  | [] => pure []
  | f :: fs => do
      let location := repository.location f.path
      Action.refine (uploadFault f location)
        (repository.put f.path f.bytes)
      let locations ← uploadAll repository fs
      pure (location :: locations)

/- Read back the metadata document of a release. -/
def fetchMetadata
    {σ : Type}
    (repository : Repository σ)
    (l : Layout) : Action σ ReleaseMetadata := do
  let document ← repository.get l.metadataPath
  Action.ofResult (ReleaseMetadata.ofDocument document)

end ReleasePipeline
