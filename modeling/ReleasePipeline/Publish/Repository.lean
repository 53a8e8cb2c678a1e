import ReleasePipeline.Host.Program
import ReleasePipeline.Publish.Channel
import ReleasePipeline.Publish.Location

/-
  This file defines repositories: local directories and
  remote ones behind an address.  Paths in a repository are
  relative and their parts are separated by slashes.  A call
  stores or fetches one whole file; nothing is tried twice.
  A remote repository may be out of reach, or it may answer
  and refuse.

  Key definitions include:
    * `Repository`
    * `Repository.resolve`
    * `Repository.atDirectory`, `Repository.atAddress`
    * `Repository.forTarget`, `Repository.openTarget`
-/

------------------------------------------------------------
-- Repositories
------------------------------------------------------------

namespace ReleasePipeline

/- Where the files of a release are stored. -/
structure Repository (σ : Type) where
  put : String → Bytes → Action σ Unit
  get : String → Action σ Bytes
  location : String → String

namespace Repository

variable {σ : Type}

------------------------------------------------------------
-- Local Directories
------------------------------------------------------------

/- The file that a path leads to below a directory. -/
def resolve
    (root path : String) : String :=
  (Text.pieces '/' path).foldl Path.join root

/- Make the directory that a file will be in. -/
def makeParent
    (t : FileTree)
    (file : String) : Except Fault Unit × FileTree :=
  match Path.parent? file with
  | none => (.ok (), t)
  | some directory =>
      let (result, t) := t.makeDirectories directory
      (ioContext s!"Failed to create {directory}" result, t)

/- Store a file and make the directories above it. -/
def storeFile
    (file : String)
    (bytes : Bytes)
    (t : FileTree) : Except Fault Unit × FileTree :=
  match makeParent t file with
  | (.error f, t) => (.error f, t)
  | (.ok (), t) =>
      match ioContext s!"Failed to write {file}"
          (t.write file bytes) with
      | .ok t => (.ok (), t)
      | .error f => (.error f, t)

/- The repository in a local directory. -/
def atDirectory (root : String) : Repository σ where
  put path bytes := Action.updatePartly (storeFile (resolve root path) bytes)
  get path := Action.inspect fun t =>
    ioContext s!"Failed to read {resolve root path}"
      (t.read (resolve root path))
  location := resolve root

------------------------------------------------------------
-- Remote Addresses
------------------------------------------------------------

/- A failure of the client itself. -/
def clientFault (reason : String) : Fault :=
  .plain s!"HTTP client error: {reason}"

/- Send a request; any answer will do, whatever its status. -/
def send
    (h : Host σ)
    (request : WebRequest) : Action σ WebResponse :=
  fun w =>
    match h.request request w with
    | (.ok response, w) => (.ok response, w)
    | (.error reason, w) => (.error (clientFault reason), w)

/- How many characters of a body are shown. -/
def shownLength : Nat :=
  200

/- The failure to store a file that is refused. -/
def refusedPut (r : WebResponse) : Fault :=
  let shown := String.ofList (r.text.toList.take shownLength)
  .plain s!"HTTP {r.describe}: {shown}"

/- The failure to fetch a file that is refused. -/
def refusedGet
    (address : String)
    (r : WebResponse) : Fault :=
  .plain s!"Failed to fetch {address}: HTTP {r.describe}"

/- The address of a file. -/
def addressOf (base path : String) : String :=
  s!"{Text.dropTrailingSlashes base}/{path}"

/- The request for a file of a target. -/
def requestFor
    (target : PublishTarget)
    (timeout : Nat)
    (path : String)
    (body : Option Bytes) : WebRequest where
  address := addressOf target.url path
  username := target.username
  password := target.password
  timeout := timeout
  body := body

/- The repository behind an address. -/
def atAddress
    (h : Host σ)
    (target : PublishTarget)
    (timeout : Nat) : Repository σ where
  put path bytes := do
    let response ←
      send h (requestFor target timeout path (some bytes))
    if response.succeeded then
      pure ()
    else
      throw (refusedPut response)
  get path := do
    let response ←
      Action.refine
        (·.withContext s!"Failed to fetch {addressOf target.url path}")
        (send h (requestFor target timeout path none))
    if response.succeeded then
      Action.ofResult (response.body.mapError clientFault)
    else
      throw (refusedGet (addressOf target.url path) response)
  location := addressOf target.url

/- The repository that a target points at. -/
def forTarget
    (h : Host σ)
    (target : PublishTarget)
    (timeout : Nat) : Repository σ :=
  match localPath? target.url with
  | some root => atDirectory root
  | none => atAddress h target timeout

/- A remote repository needs a client; a local one needs nothing. -/
def prepare
    (h : Host σ)
    (target : PublishTarget) : Action σ Unit :=
  match localPath? target.url with
  | some _ => pure ()
  | none =>
      Action.ask h.client fun reason =>
        (clientFault reason).withContext "Failed to create HTTP client"

/- Open the repository that a target points at. -/
def openTarget
    (h : Host σ)
    (target : PublishTarget)
    (timeout : Nat) : Action σ (Repository σ) := do
  prepare h target
  pure (forTarget h target timeout)

end Repository

end ReleasePipeline
