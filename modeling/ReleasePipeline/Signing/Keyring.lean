import ReleasePipeline.Host.Program
import ReleasePipeline.Signing.Credential

/-
  This file defines detached signatures.  They are made by the
  signing program, with a key that it keeps or with one that
  was imported into a fresh keyring.  Secrets go to the program
  through its input, never through its arguments.

  Key definitions include:
    * `Signer`
    * `Keyring`
    * `Keyring.importArguments`, `Keyring.signArguments`
    * `Signer.forCredential`
-/

------------------------------------------------------------
-- Signers
------------------------------------------------------------

namespace ReleasePipeline

/- What signs the bytes of a release. -/
structure Signer (σ : Type) where
  sign : Bytes → Action σ Bytes

/- Where the program finds the key. -/
inductive Keyring where
  | temporary (passphrase : Secret)
  | kept (keyId : Option String)
deriving DecidableEq, Repr

namespace Keyring

/- Only the owner may use the fresh keyring. -/
def permissions : Nat :=
  0o700

/- The first line of every armored signature. -/
def armorLine : String :=
  "-----BEGIN PGP SIGNATURE-----"

------------------------------------------------------------
-- Arguments
------------------------------------------------------------

/- The arguments that import a key into the fresh keyring. -/
def importArguments : List Argument :=
  [.text "--batch", .text "--no-tty", .text "--homedir", .keyring,
    .text "--import"]

/- The arguments that select the key. -/
def keyArguments : Keyring → List Argument
  | .temporary _ =>
      [.text "--homedir", .keyring, .text "--pinentry-mode",
        .text "loopback", .text "--passphrase-fd", .text "0"]
  | .kept (some keyId) => [.text "--local-user", .text keyId]
  | .kept none => []

/- The arguments that sign the staged bytes. -/
def signArguments (k : Keyring) : List Argument :=
  [.text "--batch", .text "--no-tty", .text "--yes"] ++
    k.keyArguments ++
    [.text "--armor", .text "--detach-sign", .text "--output",
      .text "-", .payload]

/- What the program reads while it signs. -/
def signInput : Keyring → Option Bytes
  | .temporary passphrase =>
      some (Utf8.encode (passphrase.expose ++ "\n"))
  | .kept _ => none

/- The permissions of the fresh keyring, if there is one. -/
def permissions? : Keyring → Option Nat
  | .temporary _ => some permissions
  | .kept _ => none

------------------------------------------------------------
-- Running the Program
------------------------------------------------------------

/- The program speaks one language wherever it runs. -/
def assignments : List (String × String) :=
  [("LC_ALL", "C")]

/- Import a key into the fresh keyring. -/
def importCall
    (program : String)
    (key : Secret) : Invocation where
  program := program
  arguments := importArguments
  directory := none
  input := some (Utf8.encode key.expose)
  assignments := assignments
  keyring := some permissions
  payload := none

/- Sign bytes. -/
def signCall
    (k : Keyring)
    (program : String)
    (data : Bytes) : Invocation where
  program := program
  arguments := k.signArguments
  directory := none
  input := k.signInput
  assignments := assignments
  keyring := k.permissions?
  payload := some data

/- Why the program did not get to its end. -/
def explain
    (program : String) : RunFault → Fault
  | .unstaged e =>
      (Fault.io e).withContext "Failed to stage data for signing"
  | .unstarted e =>
      (Fault.io e).withContext s!"Failed to execute {program}"
  | .interrupted e => .io e

/- What the program prints, if it ends well. -/
def outputOf
    {σ : Type}
    (h : Host σ)
    (call : Invocation) : Action σ Bytes := do
  let finished ← h.run call (explain call.program)
  if finished.succeeded then
    pure finished.output
  else
    throw (.plain s!"{call.program} {finished.complaint}")

/- A signature has to begin with its armor. -/
def isArmored (output : Bytes) : Bool :=
  (Utf8.encode armorLine).isPrefixOf output

/- The signer that uses a keyring. -/
def signer
    {σ : Type}
    (h : Host σ)
    (program : String)
    (k : Keyring) : Signer σ where
  sign data := do
    let output ← outputOf h (k.signCall program data)
    if isArmored output then
      pure output
    else
      throw (.plain s!"{program} produced no armored signature")

end Keyring

------------------------------------------------------------
-- Opening a Credential
------------------------------------------------------------

/-
  The signer of a credential.  A key that is given is imported
  at once into a keyring that is made for it, so that a key
  that is refused fails here.
-/
def Signer.forCredential
    {σ : Type}
    (h : Host σ) : Credential → Action σ (Signer σ)
  | .inMemory key passphrase program => do
      Action.ask (h.keyring Keyring.permissions) fun e =>
        (Fault.io e).withContext "Failed to create temporary keyring"
      let _ ←
        Action.refine (·.withContext "Failed to import signing key")
          (Keyring.outputOf h (Keyring.importCall program key))
      pure ((Keyring.temporary passphrase).signer h program)
  | .agent key =>
      pure ((Keyring.kept key.keyId).signer h key.program)

end ReleasePipeline
