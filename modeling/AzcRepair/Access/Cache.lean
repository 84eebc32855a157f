import AzcRepair.Access.Token
import AzcRepair.Worker.Failure

/-!
# The token cache

The current token is kept and sent with every request until it is about to expire or the service
rejects it. Then the source is asked for another one; when that fails, the cache stays as it is.
-/

namespace AzcRepair.Access

/-- The current token, if there is one. -/
abbrev Cache := Option Token

namespace Cache

def empty : Cache := none

/-- The secret to send now, and the cache after that. The clock is read only when there is a token
that may be stale. -/
def bearer {M : Type → Type} [Monad M] (clock : M Instant) (fetch : M (Except Worker.Failure Token))
    (margin : UInt32) (cache : Cache) : M (Except Worker.Failure String × Cache) := do
  match cache with
  | some token =>
    let now ← clock
    -- a token that expires within the margin is replaced while it still works
    if token.isStale now margin then refresh else return (.ok token.secret, cache)
  | none => refresh
where
  /-- Asks for another token. -/
  refresh : M (Except Worker.Failure String × Cache) := do
    match ← fetch with
    | .ok token => return (.ok token.secret, some token)
    -- the stale token stays, and the next request asks again
    | .error failure => return (.error failure, cache)

end Cache

end AzcRepair.Access
