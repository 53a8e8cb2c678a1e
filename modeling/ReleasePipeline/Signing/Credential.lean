import ReleasePipeline.Fault
import ReleasePipeline.Secret

/-
  This file defines where the key of a release comes from.  A
  key that is given together with its passphrase is used
  first, then a key that another program keeps.  With neither
  there is no release.

  Key definitions include:
    * `AgentKey`, `SigningSources`
    * `Credential`, `SigningMode`
    * `SigningSources.select`
-/

------------------------------------------------------------
-- Credentials
------------------------------------------------------------

namespace ReleasePipeline

/- A key that another program keeps. -/
structure AgentKey where
  program : String
  keyId : Option String
deriving DecidableEq, Repr

/- What a run has at hand to sign with. -/
structure SigningSources where
  keyEnv : String
  passphraseEnv : String
  key : Option Secret
  passphrase : Option Secret
  program : String
  agent : Option AgentKey
deriving DecidableEq, Repr

/- The one credential that a run signs with. -/
inductive Credential where
  | inMemory (key passphrase : Secret) (program : String)
  | agent (key : AgentKey)
deriving DecidableEq, Repr

/- The kinds of credentials. -/
inductive SigningMode where
  | inMemory
  | agent
deriving DecidableEq, Repr

namespace SigningMode

/- The name of a kind in documents. -/
def name : SigningMode → String
  | .inMemory => "in-memory"
  | .agent => "agent"

/- How a kind is shown. -/
def display : SigningMode → String
  | .inMemory => "in-memory key"
  | .agent => "agent"

end SigningMode

/- The kind of a credential. -/
def Credential.mode : Credential → SigningMode
  | .inMemory _ _ _ => .inMemory
  | .agent _ => .agent

------------------------------------------------------------
-- Selection
------------------------------------------------------------

/-
  The credential of a run.  A key without its passphrase, or a
  passphrase without its key, does not count.
-/
def SigningSources.select
    (s : SigningSources) : Except ReleaseFault Credential :=
  match s.key, s.passphrase, s.agent with
  | some key, some passphrase, _ =>
      .ok (.inMemory key passphrase s.program)
  | _, _, some agent => .ok (.agent agent)
  | _, _, none =>
      .error (.noSigningCredential
        [s.keyEnv, s.passphraseEnv, "signing.agent"])

end ReleasePipeline
