import ReleasePipeline.Fault
import ReleasePipeline.Json.Reader

/-
  This file defines the reading of typed values from JSON
  documents.

  Key definitions include:
    * `Fault.json`
    * `Json.decode`
-/

------------------------------------------------------------
-- Typed Values
------------------------------------------------------------

namespace ReleasePipeline

/- The failure to read a document of the expected shape. -/
def Fault.json : Fault :=
  .plain "JSON error: the document does not have the expected shape"

/- Read a document and then a typed value from it. -/
def Json.decode
    {α : Type}
    (ofDatum : Datum → Option α)
    (bytes : Bytes) : Except Fault α :=
  match (Json.read? bytes).bind ofDatum with
  | some a => .ok a
  | none => .error .json

end ReleasePipeline
