import ReleasePipeline.Text.Basic

/-
  This file defines which repository addresses name a local
  directory.

  Key definitions include:
    * `Repository.localPath?`
-/

------------------------------------------------------------
-- Local Addresses
------------------------------------------------------------

namespace ReleasePipeline

namespace Repository

/- The scheme of addresses that name a local directory. -/
def fileScheme : String :=
  "file://"

/- Whether an address begins with a drive letter. -/
def startsWithDrive (cs : List Char) : Bool :=
  match cs with
  | letter :: ':' :: separator :: _ =>
      letter.isAlpha && (separator == '\\' || separator == '/')
  | _ => false

/- Whether an address without a scheme is a path. -/
def isPathLike (url : String) : Bool :=
  Text.startsWith url "./" || Text.startsWith url "../" ||
    Text.startsWith url "\\\\" || startsWithDrive url.toList ||
    Text.startsWith url "/"

/-
  The directory that an address names.  Addresses with another
  scheme and bare names are remote.
-/
def localPath? (url : String) : Option String :=
  if Text.startsWith url fileScheme then
    let rest := String.ofList (url.toList.drop fileScheme.length)
    if rest = "" then none else some rest
  else if Text.contains url "://" then
    none
  else if isPathLike url then
    some url
  else
    none

end Repository

end ReleasePipeline
