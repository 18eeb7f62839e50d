import IdentitySync.Desk.Agent
import IdentitySync.Desk.Directory
import IdentitySync.Desk.Published

/-!
Images of directory records as resources. Every record has one; fields that a record lacks are null
in its profile.
-/
namespace IdentitySync.Desk
open Text

def optionalText (s : Option String) : Value := Value.optional Value.string s

def idText (id : UInt64) : String := numeral id.toNat

/-- First and last name, else the email, else the id. -/
def displayName (id : UInt64) (first last : String) (email : Option String) : String :=
  match nonBlank? (trim first ++ " " ++ trim last) with
  | some full => full
  | none => email.getD (idText id)

def personEntries (id : UInt64) (first last : String) (email : Option String) :
    List (String × Value) :=
  [("login", optionalText email), ("first_name", .string first), ("last_name", .string last),
   ("email", optionalText email), ("user_id", .string (idText id))]

/-- An email is also the login. -/
def withEmail (u : UserTrait) : Option String → UserTrait
  | some email => (u.withLogin email).withEmail email true
  | none => u

namespace Agent

def profile (a : Agent) : Profile :=
  .ofList <| personEntries a.id a.names.1 a.names.2 a.emailAddress ++
    [("job_title", optionalText a.title), ("mobile_phone", optionalText a.mobileNumber),
     ("work_phone", optionalText a.workNumber), ("address", optionalText a.address)]

def resource (a : Agent) : Resource :=
  .ofUser ⟨agentId, idText a.id⟩ (displayName a.id a.names.1 a.names.2 a.emailAddress)
    ((withEmail (.new a.profile (.ofActive a.isActive)) a.emailAddress).withLastLogin a.lastLogin)

end Agent

namespace Requester

def emailAddress (r : Requester) : Option String := r.primaryEmail.bind nonBlank?

def profile (r : Requester) : Profile :=
  .ofList <| personEntries r.id (r.firstName.getD "") (r.lastName.getD "") r.emailAddress ++
    [("job_title", optionalText r.jobTitle), ("mobile_phone", optionalText r.mobilePhone),
     ("work_phone", optionalText r.workPhone), ("address", optionalText r.address),
     ("is_agent", .bool (r.isAgent.getD false))]

def resource (r : Requester) : Resource :=
  .ofUser ⟨requesterId, idText r.id⟩
    (displayName r.id (r.firstName.getD "") (r.lastName.getD "") r.emailAddress)
    (withEmail (.new r.profile (.ofActive (r.active.getD false))) r.emailAddress)

end Requester

def groupProfile (id : UInt64) (name : String) (description groupType : Option String) : Profile :=
  .ofList [("group_id", .string (idText id)), ("group_name", .string name),
    ("description", optionalText description), ("group_type", optionalText groupType)]

def AgentGroup.resource (g : AgentGroup) : Resource :=
  .ofGroup ⟨agentGroupId, idText g.id⟩ g.name
    (groupProfile g.id g.name g.description (some "agent_group"))

def RequesterGroup.resource (g : RequesterGroup) : Resource :=
  .ofGroup ⟨requesterGroupId, idText g.id⟩ g.name
    (groupProfile g.id g.name g.description g.groupType)

def integerValue (n : Int64) : Value :=
  .number (match n.toInt with | .ofNat n => .natural n | .negSucc n => .negative (n + 1))

def Role.resource (r : Role) : Resource :=
  .ofRole ⟨roleId, idText r.id⟩ r.name <|
    .ofList [("role_id", .string (idText r.id)), ("role_name", .string r.name),
      ("description", optionalText r.description),
      ("role_type", Value.optional integerValue r.roleType)]

end IdentitySync.Desk
