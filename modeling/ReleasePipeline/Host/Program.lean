import ReleasePipeline.Host.World
import ReleasePipeline.Secret

/-
  This file defines what a run asks of its host: to run a
  program, to send a request, and to tell the time.  The host
  tells apart where each of them may fail, since the program
  has other words for each.

  A program may be handed two things that have no name of
  their own: a fresh directory for keys, and a file that holds
  the bytes to be signed.  Their places stand in its arguments
  where the host puts the names.

  Key definitions include:
    * `Argument`, `Invocation`
    * `ProgramEnd`, `Finished`, `Finished.complaint`
    * `RunFault`
    * `WebRequest`, `WebResponse`
    * `Host`
-/

------------------------------------------------------------
-- Programs
------------------------------------------------------------

namespace ReleasePipeline

/- An argument of a program. -/
inductive Argument where
  | text (value : String)
  | keyring
  | payload
deriving DecidableEq, Repr

/-
  A program and what it is handed: its arguments, the
  directory it starts in, its input, the variables that are
  set for it, the permissions of its fresh directory for keys
  and the contents of its file to be signed.
-/
structure Invocation where
  program : String
  arguments : List Argument
  directory : Option String
  input : Option Bytes
  assignments : List (String × String)
  keyring : Option Nat
  payload : Option Bytes
deriving DecidableEq, Repr

/- A program in a directory, with arguments and nothing else. -/
def Invocation.plain
    (program : String)
    (arguments : List String)
    (directory : Option String) : Invocation where
  program := program
  arguments := arguments.map .text
  directory := directory
  input := none
  assignments := []
  keyring := none
  payload := none

------------------------------------------------------------
-- Ends of Programs
------------------------------------------------------------

/-
  How a program ended: with an exit status, or by a signal,
  which may have left a dump of its memory.
-/
inductive ProgramEnd where
  | exited (status : Nat)
  | killed (signal : Nat) (dumped : Bool)
deriving DecidableEq, Repr

namespace ProgramEnd

/- A number is an exit status. -/
instance : Coe Nat ProgramEnd :=
  ⟨exited⟩

instance (status : Nat) : OfNat ProgramEnd status :=
  ⟨exited status⟩

/- The names of the signals, from the first one on. -/
def signalNames : List String :=
  ["SIGHUP", "SIGINT", "SIGQUIT", "SIGILL", "SIGTRAP", "SIGABRT",
    "SIGBUS", "SIGFPE", "SIGKILL", "SIGUSR1", "SIGSEGV", "SIGUSR2",
    "SIGPIPE", "SIGALRM", "SIGTERM", "SIGSTKFLT", "SIGCHLD",
    "SIGCONT", "SIGSTOP", "SIGTSTP", "SIGTTIN", "SIGTTOU", "SIGURG",
    "SIGXCPU", "SIGXFSZ", "SIGVTALRM", "SIGPROF", "SIGWINCH",
    "SIGIO", "SIGPWR", "SIGSYS"]

/- A signal, with its name if it has one. -/
def describeSignal : Nat → String
  | 0 => "0"
  | n + 1 =>
      match signalNames[n]? with
      | some name => s!"{n + 1} ({name})"
      | none => s!"{n + 1}"

/- How a program ended, as it is shown. -/
def describe : ProgramEnd → String
  | .exited status => s!"exit status: {status}"
  | .killed signal dumped =>
      s!"signal: {describeSignal signal}" ++
        if dumped then " (core dumped)" else ""

end ProgramEnd

/- How a program ended and what it printed. -/
structure Finished where
  status : ProgramEnd
  output : Bytes
  errors : Bytes
deriving DecidableEq, Repr

namespace Finished

/- A program ends well with exit status zero. -/
def succeeded (f : Finished) : Bool :=
  f.status == .exited 0

/- How a program that did not end well did end. -/
def complaint (f : Finished) : String :=
  s!"exited with {f.status.describe}: " ++
    Text.trim (Utf8.decodeLossy f.errors)

end Finished

/-
  Why a program did not get to its end: the bytes to be signed
  could not be staged, it could not be started, or it could
  not be given its input or waited for.
-/
inductive RunFault where
  | unstaged (cause : IoError)
  | unstarted (cause : IoError)
  | interrupted (cause : IoError)
deriving DecidableEq, Repr

/- What was wrong, wherever it was. -/
def RunFault.cause : RunFault → IoError
  | .unstaged cause => cause
  | .unstarted cause => cause
  | .interrupted cause => cause

------------------------------------------------------------
-- Requests
------------------------------------------------------------

/-
  A request to a remote repository: to store a body, or to
  fetch what is there if it has none.
-/
structure WebRequest where
  address : String
  username : Secret
  password : Secret
  timeout : Nat
  body : Option Bytes
deriving DecidableEq, Repr

/-
  The answer to a request: a status with the phrase that is
  shown for it, and a body.  The status is known before the
  body is read, which may still break off.
-/
structure WebResponse where
  status : Nat
  phrase : String
  body : Except String Bytes

namespace WebResponse

/- A request succeeds with one of the statuses from 200 to 299. -/
def succeeded (r : WebResponse) : Bool :=
  200 ≤ r.status && r.status < 300

/- The status, as it is shown. -/
def describe (r : WebResponse) : String :=
  s!"{r.status} {r.phrase}"

/- The text of the body; there is none if it cannot be read. -/
def text (r : WebResponse) : String :=
  Utf8.decodeLossy (r.body.toOption.getD [])

end WebResponse

------------------------------------------------------------
-- Hosts
------------------------------------------------------------

/-
  What a run relies on.  A host runs programs and sends
  requests.  Before that it is asked for a directory for keys,
  with its permissions, or for a client; both can be had from
  a host that does not say otherwise.  What the host cannot do
  is described by it.
-/
structure Host (σ : Type) where
  start : Invocation → World σ → Except RunFault Finished × World σ
  keyring : Nat → World σ → Except IoError Unit := fun _ _ => .ok ()
  client : World σ → Except String Unit := fun _ => .ok ()
  request : WebRequest → World σ → Except String WebResponse × World σ
  clock : World σ → String

/- Run a program, and explain why it did not get to its end. -/
def Host.run
    {σ : Type}
    (h : Host σ)
    (call : Invocation)
    (explain : RunFault → Fault) : Action σ Finished :=
  fun w =>
    match h.start call w with
    | (.ok finished, w) => (.ok finished, w)
    | (.error e, w) => (.error (explain e), w)

end ReleasePipeline
