/-
  This file defines secrets: keys, passphrases and passwords.
  A secret is never shown; only `expose` gives its text.

  Key definitions include:
    * `Secret`
    * `Secret.display`, `Secret.describe`
-/

------------------------------------------------------------
-- Secrets
------------------------------------------------------------

namespace ReleasePipeline

/- A text that must not be printed. -/
structure Secret where
  expose : String
deriving DecidableEq

namespace Secret

/- What is printed in place of a secret. -/
def display (_ : Secret) : String :=
  "***"

/- What is printed in place of a secret in a structure. -/
def describe (s : Secret) : String :=
  s!"Secret({s.display})"

instance : Repr Secret where
  reprPrec s _ := s.describe

end Secret

end ReleasePipeline
