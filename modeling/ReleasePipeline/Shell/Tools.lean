import ReleasePipeline.Files.Tree
import ReleasePipeline.Text.Hex

/-
  This file defines the tools that commands can call: they
  print texts and copy, make and remove files in a tree.

  Key definitions include:
    * `Effect`
    * `Tools.escaped`, `Tools.formatted`
    * `Tools.find?`
-/

------------------------------------------------------------
-- Effects
------------------------------------------------------------

namespace ReleasePipeline

/- What a command leaves behind. -/
structure Effect where
  tree : FileTree
  output : Bytes
  errors : Bytes
  status : Nat
deriving DecidableEq, Repr

namespace Effect

/- Nothing but a status. -/
def quiet
    (t : FileTree)
    (status : Nat) : Effect where
  tree := t
  output := []
  errors := []
  status := status

/- A line on the error stream. -/
def complains
    (t : FileTree)
    (line : String)
    (status : Nat) : Effect :=
  { quiet t status with errors := Utf8.encode (line ++ "\n") }

/- An effect after another; it fails if either does. -/
def after
    (first second : Effect) : Effect where
  tree := second.tree
  output := first.output ++ second.output
  errors := first.errors ++ second.errors
  status := if second.status = 0 then first.status else second.status

end Effect

namespace Tools

/- A tool: what it does to a tree with its arguments. -/
abbrev Tool :=
  FileTree → List String → Effect

/- What has gone wrong, without the number. -/
def reason : IoError → String
  | .numbered code => IoError.description code
  | .described text => text

------------------------------------------------------------
-- Printing
------------------------------------------------------------

/- The value of an octal digit. -/
def octal? (c : Char) : Option Nat :=
  if '0' ≤ c ∧ c ≤ '7' then some (c.toNat - 0x30) else none

/- A number of at most three octal digits, and what follows. -/
def takeOctal : Nat → Nat → List Char → Nat × List Char
  | 0, n, cs => (n, cs)
  | _, n, [] => (n, [])
  | count + 1, n, c :: cs =>
      match octal? c with
      | some d => takeOctal count (n * 8 + d) cs
      | none => (n, c :: cs)

/- The character that a letter behind a backslash stands for. -/
def control? (c : Char) : Option Char :=
  [('n', '\n'), ('t', '\t'), ('r', '\x0D'), ('a', '\x07'),
    ('b', '\x08'), ('f', '\x0C'), ('v', '\x0B'),
    ('\\', '\\')].lookup c

/- The bytes of a text in which backslashes escape. -/
def escapedFrom : Nat → List Char → Bytes
  | 0, _ => []
  | _, [] => []
  | fuel + 1, '\\' :: c :: cs =>
      match control? c with
      | some d => Utf8.encodeChar d ++ escapedFrom fuel cs
      | none =>
          match octal? c with
          | some _ =>
              let (n, rest) := takeOctal 3 0 (c :: cs)
              UInt8.ofNat n :: escapedFrom fuel rest
          | none => Utf8.encodeChars ['\\', c] ++ escapedFrom fuel cs
  | fuel + 1, c :: cs => Utf8.encodeChar c ++ escapedFrom fuel cs

/- The bytes of a text in which backslashes escape. -/
def escaped (cs : List Char) : Bytes :=
  escapedFrom cs.length cs

/- Print words, separated by blanks. -/
def echo : Tool := fun t words =>
  let (shown, ending) :=
    match words with
    | "-n" :: rest => (rest, "")
    | words => (words, "\n")
  { Effect.quiet t 0 with
    output := escaped (" ".intercalate shown).toList ++
      Utf8.encode ending }

/-
  A format in which `%s` stands for the next argument and `%%`
  for itself.
-/
def formatted : List Char → List String → Bytes
  | [], _ => []
  | '%' :: 's' :: cs, argument :: arguments =>
      Utf8.encode argument ++ formatted cs arguments
  | '%' :: 's' :: cs, [] => formatted cs []
  | '%' :: '%' :: cs, arguments =>
      Utf8.encode "%" ++ formatted cs arguments
  | c :: cs, arguments =>
      Utf8.encodeChar c ++ formatted cs arguments

/- The number of arguments that a format uses up. -/
def placesIn : List Char → Nat
  | '%' :: 's' :: cs => placesIn cs + 1
  | '%' :: '%' :: cs => placesIn cs
  | _ :: cs => placesIn cs
  | [] => 0

/- A format, used again as long as it uses up arguments. -/
def formattedAgain
    (cs : List Char) : Nat → List String → Bytes
  | 0, _ => []
  | fuel + 1, arguments =>
      let rest := arguments.drop (placesIn cs)
      formatted cs arguments ++
        if placesIn cs = 0 ∨ rest = [] then []
        else formattedAgain cs fuel rest

/- Print arguments in a format. -/
def printf : Tool := fun t words =>
  match words with
  | [] => .complains t "printf: usage: printf format [arg ...]" 2
  | format :: arguments =>
      let cs := (Utf8.decodeLossy (escaped format.toList)).toList
      { Effect.quiet t 0 with
        output := formattedAgain cs (arguments.length + 1) arguments }

------------------------------------------------------------
-- Files
------------------------------------------------------------

/- Do something to each path, one after another. -/
def forEach
    (f : FileTree → String → Effect) : Tool := fun t paths =>
  paths.foldl (fun effect path => effect.after (f effect.tree path))
    (.quiet t 0)

/- Print files. -/
def cat : Tool :=
  forEach fun t path =>
    match t.read path with
    | .ok bytes => { Effect.quiet t 0 with output := bytes }
    | .error e => .complains t s!"cat: {path}: {reason e}" 1

/- Where a copy goes; into a directory under its own name. -/
def copyTarget
    (t : FileTree)
    (source target : String) : String :=
  if t.isDirectory target then
    Path.join target ((Path.fileName? source).getD "")
  else
    target

/- Copy a file. -/
def cp : Tool := fun t words =>
  match words with
  | [source, target] =>
      match t.read source with
      | .error e =>
          if t.isDirectory source then
            .complains t (s!"cp: -r not specified; " ++
              s!"omitting directory '{source}'") 1
          else
            .complains t s!"cp: cannot stat '{source}': {reason e}" 1
      | .ok bytes =>
          match t.write (copyTarget t source target) bytes with
          | .ok t => .quiet t 0
          | .error e =>
              .complains t (s!"cp: cannot create regular file " ++
                s!"'{target}': {reason e}") 1
  | _ => .complains t "cp: missing file operand" 1

/- Make a directory, with those above it if asked for. -/
def makeOne
    (parents : Bool)
    (t : FileTree)
    (path : String) : Effect :=
  let (result, t) :=
    if parents then
      t.makeDirectories path
    else
      match t.makeDirectory path with
      | .ok made => (.ok (), made)
      | .error e => (.error e, t)
  match result with
  | .ok () => .quiet t 0
  | .error e =>
      .complains t
        s!"mkdir: cannot create directory '{path}': {reason e}" 1

/- Make directories. -/
def mkdir : Tool := fun t words =>
  match words with
  | "-p" :: paths => forEach (makeOne true) t paths
  | paths => forEach (makeOne false) t paths

/- Make empty files where there are none. -/
def touch : Tool :=
  forEach fun t path =>
    if t.present path then
      .quiet t 0
    else
      match t.write path [] with
      | .ok t => .quiet t 0
      | .error e =>
          .complains t s!"touch: cannot touch '{path}': {reason e}" 1

/- Remove a file; a missing one may be passed over. -/
def removeOne
    (force : Bool)
    (t : FileTree)
    (path : String) : Effect :=
  match t.remove path with
  | .ok t => .quiet t 0
  | .error e =>
      if force ∧ e = .notFound then .quiet t 0
      else .complains t s!"rm: cannot remove '{path}': {reason e}" 1

/- Remove files. -/
def rm : Tool := fun t words =>
  match words with
  | "-f" :: paths => forEach (removeOne true) t paths
  | paths => forEach (removeOne false) t paths

/- All tools. -/
def all : List (String × Tool) :=
  [("true", fun t _ => .quiet t 0), ("false", fun t _ => .quiet t 1),
    ("echo", echo), ("printf", printf), ("cat", cat), ("cp", cp),
    ("mkdir", mkdir), ("touch", touch), ("rm", rm)]

/- The tool of a name. -/
def find? (name : String) : Option Tool :=
  all.lookup name

end Tools

end ReleasePipeline
