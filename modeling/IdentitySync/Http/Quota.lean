import IdentitySync.Access.Annotation
import IdentitySync.Http.Message

/-!
What the headers of an answer say about the quota.
-/
namespace IdentitySync.Http
open Time

def greatestDelay : UInt64 := 9223372036854775807

/-- When the window ends; nothing inside when that is not said (or beyond all delays), nothing at
    all when it is beyond the calendar. -/
def resetAt? (receivedAt : Timestamp) (delay : Option UInt64) : Option (Option Timestamp) :=
  match delay with
  | none => some none
  | some seconds =>
    if greatestDelay < seconds then some none
    else (receivedAt.later? seconds.toNat).map some

/-- The quota: over the limit with status 429 and when a limit is named of which nothing is left.
    Without any of the three headers there is none; the outer nothing is a moment beyond the
    calendar. -/
def quota? (r : Response) : Option (Option RateLimit) :=
  let limit := numberHeader? r.headers "X-RateLimit-Total"
  let remaining := numberHeader? r.headers "X-RateLimit-Remaining"
  let delay := r.retryAfter
  if limit.isNone && remaining.isNone && delay.isNone then some none
  else
    let left := remaining.getD 0
    let exceeded : Bool := r.status = 429 || (limit.isSome && left = 0)
    (resetAt? r.receivedAt delay).map fun resetAt =>
      some ⟨if exceeded then .overlimit else .ok, limit.getD 0, left, resetAt⟩

end IdentitySync.Http
