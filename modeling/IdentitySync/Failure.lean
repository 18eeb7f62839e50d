import IdentitySync.Ticket.Basic

/-!
Failures of a connector's operations, with a code for each kind. The transient ones may go away
when the operation is tried again.
-/
namespace IdentitySync

/-- A flag tells whether a failure wraps another one. -/
inductive Failure where
  | connectionFailed (message : String) (wraps : Bool)
  | targetUnavailable (message : String)
  | rateLimited (retryAfter : Option UInt64)
  | authenticationFailed
  | authorizationFailed (operation : String)
  | invalidConfiguration (message : String)
  | invalidPageToken (message : String)
  | principalMismatch (connector expected actual action : String)
  | notSupported (operation resourceType : String)
  | operationFailed (message : String) (wraps : Bool)
  | objectNotFound (identifier : String)
  | invalidData (message : String)
  | ticketIncomplete (ticket : Ticket) (message : String)
  | serialization (message : String)
  | internal (message : String)

namespace Failure

def message : Failure → String
  | .connectionFailed message _ => "connection failed: " ++ message
  | .targetUnavailable message => "target system unavailable: " ++ message
  | .rateLimited _ => "rate limited by target system"
  | .authenticationFailed => "authentication failed: invalid credentials"
  | .authorizationFailed operation =>
    "authorization failed: insufficient permissions for " ++ operation
  | .invalidConfiguration message => "invalid configuration: " ++ message
  | .invalidPageToken message => "invalid page token: " ++ message
  | .principalMismatch connector expected actual action =>
    connector ++ ": only " ++ expected ++ " principals can be " ++ action ++ ", got '" ++ actual ++
      "'"
  | .notSupported operation resourceType =>
    "operation '" ++ operation ++ "' is not supported for resource type '" ++ resourceType ++ "'"
  | .operationFailed message _ => "operation failed: " ++ message
  | .objectNotFound identifier => "object not found: " ++ identifier
  | .invalidData message => "invalid data: " ++ message
  | .ticketIncomplete ticket message =>
    "ticket " ++ ticket.id ++ " created but not completed: " ++ message
  | .serialization message => "serialization error: " ++ message
  | .internal message => "internal error: " ++ message

def code : Failure → String
  | .connectionFailed _ _ => "CONNECTION_FAILED"
  | .targetUnavailable _ => "TARGET_UNAVAILABLE"
  | .rateLimited _ => "RATE_LIMITED"
  | .authenticationFailed => "AUTH_FAILED"
  | .authorizationFailed _ => "AUTHORIZATION_FAILED"
  | .invalidConfiguration _ => "INVALID_CONFIG"
  | .invalidPageToken _ => "INVALID_PAGE_TOKEN"
  | .principalMismatch _ _ _ _ => "PRINCIPAL_TYPE_MISMATCH"
  | .notSupported _ _ => "OPERATION_NOT_SUPPORTED"
  | .operationFailed _ _ => "OPERATION_FAILED"
  | .objectNotFound _ => "OBJECT_NOT_FOUND"
  | .invalidData _ => "INVALID_DATA"
  | .ticketIncomplete _ _ => "TICKET_INCOMPLETE"
  | .serialization _ => "SERIALIZATION_ERROR"
  | .internal _ => "INTERNAL_ERROR"

def isTransient : Failure → Bool
  | .connectionFailed _ _ => true
  | .targetUnavailable _ => true
  | .rateLimited _ => true
  | _ => false

end Failure

end IdentitySync
