import IdentitySync.Json.Variant

/-!
The other records of the service desk's directory: requesters, groups of agents and of requesters,
and roles.
-/
namespace IdentitySync.Desk

structure Requester where
  id : UInt64
  firstName : Option String
  lastName : Option String
  primaryEmail : Option String
  active : Option Bool
  isAgent : Option Bool
  jobTitle : Option String
  mobilePhone : Option String
  workPhone : Option String
  address : Option String
deriving DecidableEq, Repr

namespace Requester

def fields := Fields.cons (.required "id" .word64) <|
  .cons (.nullable "first_name" .string) <|
  .cons (.nullable "last_name" .string) <|
  .cons (.nullable "primary_email" .string) <|
  .cons (.nullable "active" .bool) <|
  .cons (.nullable "is_agent" .bool) <|
  .cons (.nullable "job_title" .string) <|
  .cons (.nullable "mobile_phone_number" .string) <|
  .cons (.nullable "work_phone_number" .string) <|
  .cons (.nullable "address" .string) .nil

def view (r : Requester) :=
  (r.id, r.firstName, r.lastName, r.primaryEmail, r.active, r.isAgent, r.jobTitle, r.mobilePhone,
    r.workPhone, r.address, ())

def codec : Codec Requester :=
  .record "struct Requester" fields view
    fun (id, firstName, lastName, primaryEmail, active, isAgent, jobTitle, mobilePhone, workPhone,
        address, ()) =>
      ⟨id, firstName, lastName, primaryEmail, active, isAgent, jobTitle, mobilePhone, workPhone,
        address⟩

end Requester

/-- A group of agents with all its members. Not every account still names the group's roles. -/
structure AgentGroup where
  id : UInt64
  name : String
  description : Option String
  members : List UInt64
  roleIds : Option (List UInt64)
deriving DecidableEq, Repr

namespace AgentGroup

def fields := Fields.cons (.required "id" .word64) <|
  .cons (.defaulted "name" .string "") <|
  .cons (.nullable "description" .string) <|
  .cons (.defaulted "members" (.orDefault (.list .word64) []) []) <|
  .cons (.optional "role_ids" (.list .word64)) .nil

def view (g : AgentGroup) := (g.id, g.name, g.description, g.members, g.roleIds, ())

def codec : Codec AgentGroup :=
  .record "struct AgentGroup" fields view fun (id, name, description, members, roleIds, ()) =>
    ⟨id, name, description, members, roleIds⟩

def hasRole (g : AgentGroup) (roleId : UInt64) : Bool :=
  match g.roleIds with
  | some ids => ids.contains roleId
  | none => false

end AgentGroup

structure Role where
  id : UInt64
  name : String
  description : Option String
  roleType : Option Int64
deriving DecidableEq, Repr

namespace Role

def fields := Fields.cons (.required "id" .word64) <|
  .cons (.defaulted "name" .string "") <|
  .cons (.nullable "description" .string) <|
  .cons (.nullable "role_type" .integer) .nil

def view (r : Role) := (r.id, r.name, r.description, r.roleType, ())

def codec : Codec Role :=
  .record "struct Role" fields view fun (id, name, description, roleType, ()) =>
    ⟨id, name, description, roleType⟩

end Role

structure RequesterGroup where
  id : UInt64
  name : String
  description : Option String
  groupType : Option String
deriving DecidableEq, Repr

namespace RequesterGroup

def fields := Fields.cons (.required "id" .word64) <|
  .cons (.defaulted "name" .string "") <|
  .cons (.nullable "description" .string) <|
  .cons (.nullable "type" .string) .nil

def view (g : RequesterGroup) := (g.id, g.name, g.description, g.groupType, ())

def codec : Codec RequesterGroup :=
  .record "struct RequesterGroup" fields view fun (id, name, description, groupType, ()) =>
    ⟨id, name, description, groupType⟩

end RequesterGroup

structure GroupMember where
  id : UInt64
  firstName : Option String
  lastName : Option String
  email : Option String
deriving DecidableEq, Repr

namespace GroupMember

def emailField : Field (Option String) :=
  { Field.nullable "email" .string with otherName := some "primary_email" }

def fields := Fields.cons (.required "id" .word64) <|
  .cons (.nullable "first_name" .string) <|
  .cons (.nullable "last_name" .string) <|
  .cons emailField .nil

def view (m : GroupMember) := (m.id, m.firstName, m.lastName, m.email, ())

def codec : Codec GroupMember :=
  .record "struct RequesterGroupMember" fields view fun (id, firstName, lastName, email, ()) =>
    ⟨id, firstName, lastName, email⟩

end GroupMember

end IdentitySync.Desk
