import IdentitySync.Json.Variant

/-!
Annotations: what a target reports about its quota, and remarks on a call or a resource type.
-/
namespace IdentitySync
open Time

inductive RateLimitStatus where
  | unspecified
  | ok
  | overlimit
deriving DecidableEq, Repr

def RateLimitStatus.name : RateLimitStatus → String
  | .unspecified => "unspecified"
  | .ok => "ok"
  | .overlimit => "overlimit"

def RateLimitStatus.codec : Codec RateLimitStatus := .named name [.unspecified, .ok, .overlimit]

/-- Requests allowed per window, requests left in it, and when the window ends if that is known. -/
structure RateLimit where
  status : RateLimitStatus
  limit : UInt64
  remaining : UInt64
  resetAt : Option Timestamp
deriving DecidableEq

namespace RateLimit

def title : String := "struct RateLimitDescription"

def fields := Fields.cons (.required "status" RateLimitStatus.codec) <|
  .cons (.required "limit" .word64) <| .cons (.required "remaining" .word64) <|
  .cons (.optional "reset_at" .timestamp) .nil

def view (r : RateLimit) := (r.status, r.limit, r.remaining, r.resetAt, ())

def codec : Codec RateLimit :=
  .record title fields view fun (status, limit, remaining, resetAt, ()) =>
    ⟨status, limit, remaining, resetAt⟩

end RateLimit

inductive Annotation where
  | rateLimit (r : RateLimit)
  | grantAlreadyExists
  | grantAlreadyRevoked
  | skipEntitlementsAndGrants
deriving DecidableEq

namespace Annotation

def written : Annotation → String × List (String × Json)
  | .rateLimit r => ("rate_limit", RateLimit.fields.encode r.view)
  | .grantAlreadyExists => ("grant_already_exists", [])
  | .grantAlreadyRevoked => ("grant_already_revoked", [])
  | .skipEntitlementsAndGrants => ("skip_entitlements_and_grants", [])

def codec : Codec Annotation :=
  .tagged "Annotation" "type"
    [("rate_limit", fun d => (RateLimit.codec.decode .aside d).map .rateLimit),
     ("grant_already_exists", .nothing .grantAlreadyExists),
     ("grant_already_revoked", .nothing .grantAlreadyRevoked),
     ("skip_entitlements_and_grants", .nothing .skipEntitlementsAndGrants)] written

end Annotation

abbrev Annotations := List Annotation

namespace Annotations

def codec : Codec Annotations := .list Annotation.codec

def withRateLimit (xs : Annotations) : Option RateLimit → Annotations
  | none => xs
  | some r => xs ++ [.rateLimit r]

def lastRateLimit : Annotations → Option RateLimit
  | [] => none
  | a :: rest =>
    match lastRateLimit rest with
    | some r => some r
    | none => match a with
      | .rateLimit r => some r
      | _ => none

def skipsEntitlementsAndGrants (xs : Annotations) : Bool := xs.contains .skipEntitlementsAndGrants

end Annotations

end IdentitySync
