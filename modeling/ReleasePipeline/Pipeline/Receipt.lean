import ReleasePipeline.Publish.Upload
import ReleasePipeline.Signing.Credential

/-
  This file defines the receipt of a release that has been
  published.

  Key definitions include:
    * `ReceiptEntry`, `Receipt`
    * `Receipt.entries`
    * `Receipt.toDatum`
-/

------------------------------------------------------------
-- Receipts
------------------------------------------------------------

namespace ReleasePipeline

/- An artifact, where it is stored and what its digest is. -/
structure ReceiptEntry where
  member : ArtifactKind
  path : String
  sha256 : String
deriving DecidableEq, Repr

/- What was published, where, and when. -/
structure Receipt where
  group : String
  artifact : String
  version : String
  channel : Channel
  target : String
  signing : SigningMode
  artifacts : List ReceiptEntry
  uploaded : List String
  publishedAt : String
deriving DecidableEq, Repr

namespace Receipt

/- The entries of the artifacts of a release. -/
def entries
    (l : Layout)
    (s : ArtifactSet) : List ReceiptEntry :=
  s.members.map fun a =>
    { member := a.kind, path := l.artifactPath a, sha256 := a.sha256 }

/- The value of an entry. -/
def entryDatum (e : ReceiptEntry) : Datum :=
  .record [("member", .text e.member.name), ("path", .text e.path),
    ("sha256", .text e.sha256)]

/- The value of a receipt. -/
def toDatum (r : Receipt) : Datum :=
  .record [("group", .text r.group), ("artifact", .text r.artifact),
    ("version", .text r.version), ("channel", .text r.channel.name),
    ("target", .text r.target), ("signing", .text r.signing.name),
    ("artifacts", .list (r.artifacts.map entryDatum)),
    ("uploaded", Datum.ofTexts r.uploaded),
    ("published_at", .text r.publishedAt)]

end Receipt

end ReleasePipeline
