import IdentitySync.Json.Variant

/-!
How a connector signs in at its target, and how long it waits for it. Secrets are masked in
everything that is shown.
-/
namespace IdentitySync

inductive Credentials where
  | anonymous
  | basic (username : String) (password : Option String)
  | bearer (token : String)
deriving DecidableEq, Repr

namespace Credentials

def masked : String := "***REDACTED***"

/-- The user name may be the secret, so it is masked as well. -/
def redacted : Credentials → Credentials
  | .anonymous => .anonymous
  | .basic _ password => .basic masked (password.map fun _ => masked)
  | .bearer _ => .bearer masked

def shown (c : Credentials) : String :=
  match c.redacted with
  | .anonymous => "None"
  | .basic username password =>
    Text.shownRecord "Basic" [("username", Text.quoted username),
      ("password", Text.shownOption Text.quoted password)]
  | .bearer token => Text.shownRecord "Bearer" [("token", Text.quoted token)]

/-- It may be missing in an object but not in a list. -/
def passwordField : Field (Option String) :=
  { Field.optional "password" .string with missingAtEnd := none }

def basicFields := Fields.cons (.required "username" .string) <| .cons passwordField .nil

def bearerFields := Fields.cons (.required "token" .string) .nil

def written : Credentials → String × List (String × Json)
  | .anonymous => ("none", [])
  | .basic username password => ("basic", basicFields.encode (username, password, ()))
  | .bearer token => ("bearer", bearerFields.encode (token, ()))

def codec : Codec Credentials :=
  .tagged "AuthConfig" "type"
    [("none", .nothing .anonymous),
     ("basic", .fields "struct variant AuthConfig::Basic" basicFields
       fun (username, password, ()) => .basic username password),
     ("bearer", .fields "struct variant AuthConfig::Bearer" bearerFields
       fun (token, ()) => .bearer token)] written

end Credentials

/-- Seconds to wait for a connection and for an answer. -/
structure Timeouts where
  connect : UInt64
  read : UInt64
deriving DecidableEq, Repr

namespace Timeouts

def standard : Timeouts := ⟨30, 60⟩

def fields := Fields.cons (.defaulted "connection_timeout_secs" .word64 standard.connect) <|
  .cons (.defaulted "read_timeout_secs" .word64 standard.read) .nil

def view (t : Timeouts) := (t.connect, t.read, ())

def codec : Codec Timeouts :=
  .record "struct ConnectionSettings" fields view fun (connect, read, ()) => ⟨connect, read⟩

def shown (t : Timeouts) : String :=
  Text.shownRecord "ConnectionSettings"
    [("connection_timeout_secs", Text.numeral t.connect.toNat),
     ("read_timeout_secs", Text.numeral t.read.toNat)]

end Timeouts

structure ConnectorInfo where
  displayName : String
  description : String
deriving DecidableEq, Repr

namespace ConnectorInfo

def fields := Fields.cons (.required "display_name" .string) <|
  .cons (.required "description" .string) .nil

def view (i : ConnectorInfo) := (i.displayName, i.description, ())

def codec : Codec ConnectorInfo :=
  .record "struct ConnectorMetadata" fields view fun (displayName, description, ()) =>
    ⟨displayName, description⟩

end ConnectorInfo

end IdentitySync
