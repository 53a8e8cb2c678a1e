import ReleasePipeline.Host.Program
import ReleasePipeline.Shell.Script
import ReleasePipeline.Shell.Tools

/-
  This file defines how scripts are run and how the shell
  serves as a host: it knows a few tools, starts nothing else,
  and refuses every request.

  Key definitions include:
    * `Shell.runCommand`, `Shell.runScript`
    * `Shell.startIn`
    * `Shell.host`
-/

------------------------------------------------------------
-- Redirections
------------------------------------------------------------

namespace ReleasePipeline

namespace Shell

/- Where the bytes of a stream end up. -/
inductive Sink where
  | stream (stream : Stream)
  | file (path : String)
deriving DecidableEq, Repr

/- Where the bytes of both streams end up. -/
structure Sinks where
  output : Sink
  errors : Sink
deriving DecidableEq, Repr

namespace Sinks

/- Every stream is its own sink. -/
def own : Sinks where
  output := .stream .output
  errors := .stream .errors

/- The sink of a stream. -/
def of
    (s : Sinks) : Stream → Sink
  | .output => s.output
  | .errors => s.errors

/- Give a stream another sink. -/
def set
    (s : Sinks)
    (stream : Stream)
    (sink : Sink) : Sinks :=
  match stream with
  | .output => { s with output := sink }
  | .errors => { s with errors := sink }

end Sinks

/- The place that swallows whatever is written to it. -/
def nowhere : Location :=
  ["dev", "null"]

/- Add bytes at the end of a file. -/
def appendTo
    (t : FileTree)
    (path : String)
    (bytes : Bytes) : FileTree :=
  if (t.locate path).toOption = some nowhere then
    t
  else
    ((t.write path ((t.read path).toOption.getD [] ++ bytes)).toOption).getD t

/- What the shell says about a file that cannot be opened. -/
def openFault (path : String) (e : IoError) : String :=
  s!"sh: 1: cannot create {path}: " ++
    if e = .notFound then "Directory nonexistent" else Tools.reason e

/- Open the files of redirections, in order. -/
def openAll :
    List Redirect → Sinks → FileTree →
      Except String Sinks × FileTree
  | [], sinks, t => (.ok sinks, t)
  | .toStream stream target :: rest, sinks, t =>
      openAll rest (sinks.set stream (sinks.of target)) t
  | .toFile stream path append :: rest, sinks, t =>
      let kept :=
        if append then (t.read path).toOption.getD [] else []
      match t.write path kept with
      | .ok t => openAll rest (sinks.set stream (.file path)) t
      | .error e => (.error (openFault path e), t)

/- Send bytes to a sink. -/
def deliver
    (e : Effect)
    (sink : Sink)
    (bytes : Bytes) : Effect :=
  match sink with
  | .stream .output => { e with output := e.output ++ bytes }
  | .stream .errors => { e with errors := e.errors ++ bytes }
  | .file path => { e with tree := appendTo e.tree path bytes }

/- Send what a command has printed to its sinks. -/
def deliverAll
    (sinks : Sinks)
    (e : Effect) : Effect :=
  deliver
    (deliver (.quiet e.tree e.status) sinks.output e.output)
    sinks.errors e.errors

------------------------------------------------------------
-- Commands
------------------------------------------------------------

/- A tool that is called by its place is known by its name. -/
def toolName (name : String) : String :=
  if Text.startsWith name "/bin/" ∨ Text.startsWith name "/usr/bin/" then
    (Path.fileName? name).getD name
  else
    name

/- Run a tool, or say that there is none. -/
def callTool
    (t : FileTree)
    (name : String)
    (arguments : List String) : Effect :=
  match Tools.find? (toolName name) with
  | some tool => tool t arguments
  | none =>
      if t.present name ∧ name.toList.contains '/' then
        .complains t s!"sh: 1: {name}: Permission denied" 126
      else
        .complains t s!"sh: 1: {name}: not found" 127

/- The status that a script asks to end with. -/
def exitStatus
    (last : Nat) : List String → Nat
  | [] => last
  | text :: _ => (text.toNat?.getD 2) % 256

/- Run a command that is no request to end the script. -/
def runCommand
    (t : FileTree)
    (c : ShellCommand) : Effect :=
  match openAll c.redirects .own t with
  | (.error complaint, t) => .complains t complaint 2
  | (.ok sinks, t) =>
      match c.words with
      | [] => .quiet t 0
      | ":" :: _ => .quiet t 0
      | name :: arguments =>
          deliverAll sinks (callTool t name arguments)

/- Whether a command is to be run after one that ended so. -/
def isDue : Joint → Nat → Bool
  | .always, _ => true
  | .afterSuccess, status => status == 0
  | .afterFailure, status => status != 0

/- Run the commands of a script after what has been done. -/
def runScript : Script → Effect → Effect
  | [], done => done
  | (joint, c) :: rest, done =>
      if isDue joint done.status then
        match c.words with
        | "exit" :: arguments =>
            { done with status := exitStatus done.status arguments }
        | _ =>
            let next := runCommand done.tree c
            runScript rest
              { tree := next.tree
                output := done.output ++ next.output
                errors := done.errors ++ next.errors
                status := next.status }
      else
        runScript rest done

/- Run the shell with its arguments. -/
def sh
    (t : FileTree)
    (arguments : List String) : Effect :=
  match arguments with
  | "-c" :: text :: _ =>
      match Script.parse? text with
      | some script => runScript script (.quiet t 0)
      | none => .complains t "sh: 1: Syntax error" 2
  | _ => .complains t "sh: 0: -c requires an argument" 2

------------------------------------------------------------
-- Starting Programs
------------------------------------------------------------

/- A program or an argument must not hold the character NUL. -/
def nulInWord : IoError :=
  .described "nul byte found in provided data"

/- The text of an argument; places are named by what is there. -/
def argumentText : Argument → String
  | .text value => value
  | .keyring => "keyring"
  | .payload => "payload"

/- Find a program, as seen from the working directory. -/
def program?
    (t : FileTree)
    (name : String) : Except IoError Tools.Tool :=
  if toolName name = "sh" then
    .ok sh
  else
    match Tools.find? (toolName name) with
    | some tool => .ok tool
    | none =>
        if name.toList.contains '/' then
          match t.node name with
          | .ok _ => .error .permissionDenied
          | .error e => .error e
        else
          .error .notFound

/- The tree as seen from a directory. -/
def seenFrom
    (t : FileTree)
    (directory : Option String) : Except IoError FileTree :=
  match directory with
  | none => .ok t
  | some path =>
      match t.node path, t.locate path with
      | .ok .directory, .ok l => .ok { t with workingDirectory := l }
      | .ok (.file _), _ => .error .notADirectory
      | .error e, _ => .error e
      | _, .error e => .error e

/- Start a program in a tree. -/
def startIn
    (t : FileTree)
    (call : Invocation) : Except IoError Effect := do
  let arguments := call.arguments.map argumentText
  if (call.program :: arguments).any (·.toList.contains '\x00') then
    .error nulInWord
  else
    let here ← seenFrom t call.directory
    let tool ← program? here call.program
    pure (tool here arguments)

/- A host that knows the tools of the shell only. -/
def host {σ : Type} : Host σ where
  start call w :=
    match startIn w.tree call with
    | .error e => (.error (.unstarted e), w)
    | .ok e =>
        (.ok { status := e.status, output := e.output, errors := e.errors },
          { w with
            tree :=
              { e.tree with
                workingDirectory := w.tree.workingDirectory } })
  request _ w := (.error "requests are not supported", w)
  clock _ := ""

end Shell

end ReleasePipeline
