import IdentitySync.Json.Variant
import IdentitySync.Text.Blank

/-!
Agents, the staff of the service desk. A record has the person's data either in its own fields or
in a contact beside them; its own fields count first, and blank texts count as nothing.
-/
namespace IdentitySync.Desk
open Time

def wholeDesk : String := "entire_helpdesk"

structure AgentRole where
  roleId : UInt64
  scope : Option String
  groups : Option (List UInt64)
deriving DecidableEq, Repr

namespace AgentRole

def new (roleId : UInt64) : AgentRole := ⟨roleId, some wholeDesk, none⟩

def fields := Fields.cons (.required "role_id" .word64) <|
  .cons (.optional "assignment_scope" .string) <|
  .cons (.optional "groups" (.list .word64)) .nil

def view (r : AgentRole) := (r.roleId, r.scope, r.groups, ())

def codec : Codec AgentRole :=
  .record "struct AgentRole" fields view fun (roleId, scope, groups, ()) => ⟨roleId, scope, groups⟩

end AgentRole

structure AgentContact where
  name : Option String
  email : Option String
  active : Option Bool
  jobTitle : Option String
  mobile : Option String
  phone : Option String
  lastLoginAt : Option Timestamp
deriving DecidableEq

namespace AgentContact

def fields := Fields.cons (.nullable "name" .string) <| .cons (.nullable "email" .string) <|
  .cons (.nullable "active" .bool) <| .cons (.nullable "job_title" .string) <|
  .cons (.nullable "mobile" .string) <| .cons (.nullable "phone" .string) <|
  .cons (.nullable "last_login_at" .timestamp) .nil

def view (c : AgentContact) :=
  (c.name, c.email, c.active, c.jobTitle, c.mobile, c.phone, c.lastLoginAt, ())

def codec : Codec AgentContact :=
  .record "struct AgentContact" fields view
    fun (name, email, active, jobTitle, mobile, phone, lastLoginAt, ()) =>
      ⟨name, email, active, jobTitle, mobile, phone, lastLoginAt⟩

end AgentContact

structure Agent where
  id : UInt64
  firstName : Option String
  lastName : Option String
  email : Option String
  active : Option Bool
  roles : List AgentRole
  jobTitle : Option String
  mobilePhone : Option String
  workPhone : Option String
  address : Option String
  lastLoginAt : Option Timestamp
  contact : Option AgentContact
  deactivated : Option Bool
  lastActiveAt : Option Timestamp
  agentType : Option String
deriving DecidableEq

namespace Agent

def fields := Fields.cons (.required "id" .word64) <|
  .cons (.nullable "first_name" .string) <|
  .cons (.nullable "last_name" .string) <|
  .cons (.nullable "email" .string) <|
  .cons (.nullable "active" .bool) <|
  .cons (.defaulted "roles" (.orDefault (.list AgentRole.codec) []) []) <|
  .cons (.nullable "job_title" .string) <|
  .cons (.nullable "mobile_phone_number" .string) <|
  .cons (.nullable "work_phone_number" .string) <|
  .cons (.nullable "address" .string) <|
  .cons (.nullable "last_login_at" .timestamp) <|
  .cons (.nullable "contact" AgentContact.codec) <|
  .cons (.nullable "deactivated" .bool) <|
  .cons (.nullable "last_active_at" .timestamp) <|
  .cons (.nullable "type" .string) .nil

def view (a : Agent) :=
  (a.id, a.firstName, a.lastName, a.email, a.active, a.roles, a.jobTitle, a.mobilePhone,
    a.workPhone, a.address, a.lastLoginAt, a.contact, a.deactivated, a.lastActiveAt, a.agentType,
    ())

def codec : Codec Agent :=
  .record "struct Agent" fields view
    fun (id, firstName, lastName, email, active, roles, jobTitle, mobilePhone, workPhone, address,
        lastLoginAt, contact, deactivated, lastActiveAt, agentType, ()) =>
      ⟨id, firstName, lastName, email, active, roles, jobTitle, mobilePhone, workPhone, address,
        lastLoginAt, contact, deactivated, lastActiveAt, agentType⟩

def textOf (a : Agent) (own : Option String) (inContact : AgentContact → Option String) :
    Option String :=
  (own.bind Text.nonBlank?).or ((a.contact.bind inContact).bind Text.nonBlank?)

def emailAddress (a : Agent) : Option String := a.textOf a.email AgentContact.email

def title (a : Agent) : Option String := a.textOf a.jobTitle AgentContact.jobTitle

def mobileNumber (a : Agent) : Option String := a.textOf a.mobilePhone AgentContact.mobile

def workNumber (a : Agent) : Option String := a.textOf a.workPhone AgentContact.phone

/-- A full name is parted at its first space. -/
def splitName (full : String) : String × String :=
  match Text.splitFirst ' ' full.toList with
  | some (first, last) => (String.ofList first, Text.trim (String.ofList last))
  | none => (full, "")

/-- First and last name. The contact's name counts when the record has neither. -/
def names (a : Agent) : String × String :=
  match a.firstName.bind Text.nonBlank?, a.lastName.bind Text.nonBlank? with
  | none, none => splitName (((a.contact.bind AgentContact.name).bind Text.nonBlank?).getD "")
  | first, last => (first.getD "", last.getD "")

/-- Active unless flagged inactive or deactivated. -/
def isActive (a : Agent) : Bool :=
  (a.active.or (a.contact.bind AgentContact.active)).getD true && !a.deactivated.getD false

def lastLogin (a : Agent) : Option Timestamp :=
  (a.lastLoginAt.or (a.contact.bind AgentContact.lastLoginAt)).or a.lastActiveAt

/-- Whether the agent has the role in whatever scope. -/
def hasRole (a : Agent) (roleId : UInt64) : Bool := a.roles.any fun r => r.roleId = roleId

end Agent

end IdentitySync.Desk
