import ReleasePipeline.Fault
import ReleasePipeline.Toml.Reader

/-
  This file defines the reading of typed values from TOML
  documents.

  Key definitions include:
    * `Fault.toml`
    * `Toml.decode`
-/

------------------------------------------------------------
-- Typed Values
------------------------------------------------------------

namespace ReleasePipeline

/- The failure to read a document of the expected shape. -/
def Fault.toml : Fault :=
  .plain ("TOML deserialization error: " ++
    "the document does not have the expected shape")

/- Read a document and then a typed value from it. -/
def Toml.decode
    {α : Type}
    (ofDatum : Datum → Option α)
    (text : String) : Except Fault α :=
  match (Toml.datum? text).bind ofDatum with
  | some a => .ok a
  | none => .error .toml

end ReleasePipeline
