import ReleasePipeline.Data.Datum
import ReleasePipeline.Json.Token

/-
  This file defines the reading of JSON documents.

  Key definitions include:
    * `Json.value?`
    * `Json.read?`
-/

------------------------------------------------------------
-- Values
------------------------------------------------------------

namespace ReleasePipeline

namespace Json

/-
  A record of members.  A name that denotes no text makes the
  whole record unusable.
-/
def recordOf (members : List (Option String × Datum)) : Datum :=
  match members.mapM fun m => m.1.map (·, m.2) with
  | some fields => .record fields
  | none => .unusable

mutual

/- Read one value; the fuel bounds the depth of the calls. -/
def value? : Nat → List Token → Option (Datum × List Token)
  | 0, _ => none
  | _ + 1, [] => none
  | fuel + 1, token :: rest =>
      match token with
      | .null => some (.null, rest)
      | .boolean b => some (.boolean b, rest)
      | .integer n => some (.integer n, rest)
      | .decimal => some (.unusable, rest)
      | .text (some s) => some (.text s, rest)
      | .text none => some (.unusable, rest)
      | .openBracket =>
          match rest with
          | .closeBracket :: rest => some (.list [], rest)
          | _ =>
              match items? fuel rest with
              | some (items, rest) => some (.list items, rest)
              | none => none
      | .openBrace =>
          match rest with
          | .closeBrace :: rest => some (.record [], rest)
          | _ =>
              match members? fuel rest with
              | some (members, rest) => some (recordOf members, rest)
              | none => none
      | _ => none

/- Read the elements of a list up to its closing bracket. -/
def items? : Nat → List Token → Option (List Datum × List Token)
  | 0, _ => none
  | fuel + 1, tokens =>
      match value? fuel tokens with
      | some (d, .closeBracket :: rest) => some ([d], rest)
      | some (d, .comma :: rest) =>
          match items? fuel rest with
          | some (ds, rest) => some (d :: ds, rest)
          | none => none
      | _ => none

/- Read the members of a record up to its closing brace. -/
def members? :
    Nat → List Token →
      Option (List (Option String × Datum) × List Token)
  | 0, _ => none
  | fuel + 1, .text name :: .colon :: tokens =>
      match value? fuel tokens with
      | some (d, .closeBrace :: rest) => some ([(name, d)], rest)
      | some (d, .comma :: rest) =>
          match members? fuel rest with
          | some (ms, rest) => some ((name, d) :: ms, rest)
          | none => none
      | _ => none
  | _ + 1, _ => none

end

/- The value of a document that holds exactly one. -/
def ofTokens? (tokens : List Token) : Option Datum :=
  match value? (2 * tokens.length + 1) tokens with
  | some (d, []) => some d
  | _ => none

/- Read a document. -/
def read? (bytes : Bytes) : Option Datum :=
  match tokens? (Utf8.scan bytes) with
  | some tokens => ofTokens? tokens
  | none => none

end Json

end ReleasePipeline
