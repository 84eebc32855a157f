import AzcRepair.Calendar
import AzcRepair.Logging
import AzcRepair.Text.Quoted

/-!
# Access tokens

A token is a secret that the service accepts up to some instant.
-/

namespace AzcRepair.Access

/-- A secret and the instant it stops being accepted. -/
structure Token where
  secret : String
  expires : Instant
  deriving DecidableEq, Repr

namespace Token

def endOfTime : Instant :=
  ⟨8210266876799, 999999999⟩

def lasting (secret : String) : Token :=
  ⟨secret, endOfTime⟩

/-- A token for diagnostics, with its secret redacted. -/
def describe (token : Token) : String :=
  "AccessToken \x7b secret: " ++ Text.quoted (Logging.redact token.secret) ++ ", expires_on: " ++
    token.expires.iso ++ " \x7d"

/-- A token has to be replaced when it expires within the margin, in seconds. -/
def isStale (token : Token) (now : Instant) (margin : UInt32) : Bool :=
  token.expires.atMost (now.plusSeconds margin.toNat)

end Token

end AzcRepair.Access
