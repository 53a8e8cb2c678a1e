import ReleasePipeline.Text.Basic

/-
  This file defines the scripts of the shell: commands that
  are joined by separators, each with words and redirections.
  Words may be quoted; nothing in them is expanded.

  Key definitions include:
    * `Stream`, `Redirect`
    * `ShellCommand`, `Joint`, `Script`
    * `Script.tokens?`
    * `Script.parse?`
-/

------------------------------------------------------------
-- Scripts
------------------------------------------------------------

namespace ReleasePipeline

/- What a command prints to. -/
inductive Stream where
  | output
  | errors
deriving DecidableEq, Repr

/- Where a stream is sent instead. -/
inductive Redirect where
  | toFile (stream : Stream) (path : String) (append : Bool)
  | toStream (stream target : Stream)
deriving DecidableEq, Repr

/- A command with its redirections. -/
structure ShellCommand where
  words : List String
  redirects : List Redirect
deriving DecidableEq, Repr

/- When a command is run: always, or as the last one ended. -/
inductive Joint where
  | always
  | afterSuccess
  | afterFailure
deriving DecidableEq, Repr

/- Commands in their order. -/
abbrev Script :=
  List (Joint × ShellCommand)

namespace Script

------------------------------------------------------------
-- Tokens
------------------------------------------------------------

/- A token of a script. -/
inductive Token where
  | word (text : String)
  | joint (joint : Joint)
  | toFile (stream : Stream) (append : Bool)
  | toStream (stream : Stream)
deriving DecidableEq, Repr

/- Where in a script a character stands. -/
inductive Mode where
  | bare
  | single
  | double
  | comment
deriving DecidableEq, Repr

/- Put the word that has begun, if any, in front of tokens. -/
def finish
    (word : Option (List Char))
    (rest : List Token) : List Token :=
  match word with
  | none => rest
  | some cs => .word (String.ofList cs.reverse) :: rest

/- Go on with the word that has begun, or begin one. -/
def extend
    (word : Option (List Char))
    (cs : List Char) : Option (List Char) :=
  some (cs.reverse ++ word.getD [])

/-
  The stream that a redirection applies to, and the tokens
  before it.  A word that is only a number names a stream.
-/
def redirected
    (word : Option (List Char))
    (token : Stream → Token)
    (rest : List Token) : List Token :=
  match word with
  | some ['1'] => token .output :: rest
  | some ['2'] => token .errors :: rest
  | word => finish word (token .output :: rest)

/- Characters that stay escaped between double quotes. -/
def isEscapable (c : Char) : Bool :=
  c == '"' || c == '\\' || c == '$' || c == '\x60'

/-
  The tokens of a script.  The word that has begun is kept in
  reverse.  A quotation must be closed.
-/
def tokensFrom :
    Mode → Option (List Char) → List Char → Option (List Token)
  | .bare, word, [] => some (finish word [])
  | .comment, _, [] => some []
  | .single, _, [] => none
  | .double, _, [] => none
  | .comment, word, '\n' :: cs =>
      (tokensFrom .bare word cs).map (.joint .always :: ·)
  | .comment, word, _ :: cs => tokensFrom .comment word cs
  | .single, word, c :: cs =>
      if c = '\x27' then tokensFrom .bare word cs
      else tokensFrom .single (extend word [c]) cs
  | .double, word, '\\' :: c :: cs =>
      if isEscapable c then tokensFrom .double (extend word [c]) cs
      else tokensFrom .double (extend word ['\\', c]) cs
  | .double, word, c :: cs =>
      if c = '"' then tokensFrom .bare word cs
      else tokensFrom .double (extend word [c]) cs
  | .bare, word, '\\' :: c :: cs => tokensFrom .bare (extend word [c]) cs
  | .bare, word, '&' :: '&' :: cs =>
      (tokensFrom .bare none cs).map fun ts =>
        finish word (.joint .afterSuccess :: ts)
  | .bare, word, '|' :: '|' :: cs =>
      (tokensFrom .bare none cs).map fun ts =>
        finish word (.joint .afterFailure :: ts)
  | .bare, word, '>' :: '>' :: cs =>
      (tokensFrom .bare none cs).map
        (redirected word (Token.toFile · true))
  | .bare, word, '>' :: '&' :: cs =>
      (tokensFrom .bare none cs).map (redirected word Token.toStream)
  | .bare, word, c :: cs =>
      if c = '>' then
        (tokensFrom .bare none cs).map
          (redirected word (Token.toFile · false))
      else if c = ';' ∨ c = '\n' then
        (tokensFrom .bare none cs).map fun ts =>
          finish word (.joint .always :: ts)
      else if c = ' ' ∨ c = '\t' then
        (tokensFrom .bare none cs).map (finish word)
      else if c = '\x27' then
        tokensFrom .single (extend word []) cs
      else if c = '"' then
        tokensFrom .double (extend word []) cs
      else if c = '#' ∧ word = none then
        tokensFrom .comment none cs
      else
        tokensFrom .bare (extend word [c]) cs

/- The tokens of a script. -/
def tokens? (text : String) : Option (List Token) :=
  tokensFrom .bare none text.toList

------------------------------------------------------------
-- Commands
------------------------------------------------------------

/- The command without words. -/
def noCommand : ShellCommand where
  words := []
  redirects := []

/- The stream that a number names. -/
def stream? (text : String) : Option Stream :=
  if text = "1" then some .output
  else if text = "2" then some .errors
  else none

/-
  Gather tokens into commands.  A separator may follow another
  one only where nothing is joined.
-/
def gather :
    Joint → ShellCommand → List Token → Option Script
  | joint, c, [] =>
      if c ≠ noCommand then some [(joint, c)]
      else if joint = .always then some []
      else none
  | joint, c, .word text :: ts =>
      gather joint { c with words := c.words ++ [text] } ts
  | joint, c, .toFile stream append :: .word path :: ts =>
      gather joint
        { c with
          redirects := c.redirects ++ [.toFile stream path append] } ts
  | joint, c, .toStream stream :: .word text :: ts =>
      match stream? text with
      | some target =>
          gather joint
            { c with
              redirects := c.redirects ++ [.toStream stream target] } ts
      | none => none
  | joint, c, .joint next :: ts =>
      if c ≠ noCommand then
        (gather next noCommand ts).map ((joint, c) :: ·)
      else if next = .always then
        gather joint noCommand ts
      else
        none
  | _, _, _ => none

/- Read a script. -/
def parse? (text : String) : Option Script :=
  (tokens? text).bind (gather .always noCommand)

end Script

end ReleasePipeline
