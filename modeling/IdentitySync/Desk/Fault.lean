import IdentitySync.Failure
import IdentitySync.Http.Message
import IdentitySync.Url.Host

/-!
What can go wrong between the connector and the service desk, and how it is reported as a failure
of the connector's operations.
-/
namespace IdentitySync.Desk
open Http Url

inductive Fault where
  | config (message : String)
  | transport (f : TransportFault)
  | badJson (e : DecodeError)
  | badUrl (e : UrlError)
  | api (status : Nat) (message : String)
  | unauthorized (message : String)
  | forbidden (message : String)
  | notFound (path : String)
  | rateLimited (retryAfter : Option UInt64)
  | timedOut (message : String)
  | badId (id : String)
deriving DecidableEq, Repr

namespace Fault

def message : Fault → String
  | .config message => "Configuration error: " ++ message
  | .transport _ => "HTTP error: <transport>"
  | .badJson e => "JSON error: " ++ e.message
  | .badUrl e => "URL error: " ++ e.message
  | .api status message =>
    "Freshservice API error: " ++ Text.numeral status ++ " - " ++ message
  | .unauthorized message => "Unauthorized: " ++ message
  | .forbidden message => "Permission denied: " ++ message
  | .notFound path => "Resource not found: " ++ path
  | .rateLimited retryAfter =>
    "Rate limit exceeded, retry after " ++
      Text.shownOption (fun n : UInt64 => Text.numeral n.toNat) retryAfter ++ " seconds"
  | .timedOut message => "Request timed out: " ++ message
  | .badId id => "Invalid id '" ++ id ++ "'"

/-- A soft fault marks the end of a listing rather than a failure. -/
def isSoft : Fault → Bool
  | .timedOut _ => true
  | _ => false

def requestFailed : String := "Freshservice request failed"

def failure : Fault → Failure
  | .config message => .invalidConfiguration message
  | .badUrl e => .invalidConfiguration e.message
  | .transport .unreachable => .connectionFailed requestFailed true
  | .transport .interrupted => .operationFailed requestFailed true
  | .badJson e => .invalidData ("unexpected Freshservice response: " ++ e.message)
  | .api status message =>
    let text := Text.numeral status ++ " - " ++ message
    if 500 ≤ status then .targetUnavailable text else .operationFailed text false
  | .unauthorized _ => .authenticationFailed
  | .forbidden message => .authorizationFailed message
  | .notFound path => .objectNotFound path
  | .rateLimited retryAfter => .rateLimited retryAfter
  | .timedOut message => .targetUnavailable message
  | .badId id => .invalidData ("invalid Freshservice id '" ++ id ++ "'")

end Fault

end IdentitySync.Desk
