import IdentitySync.Desk.Image
import IdentitySync.Proofs.Collection.KeyedMap
import IdentitySync.Proofs.Desk.Visit
import IdentitySync.Proofs.Text.Blank
import IdentitySync.Proofs.Text.Pieces

/-!
People as users. The image of an agent or a requester always has a name to show, and an email is
its login, its only address and what its profile says, all in one spelling; without an email it has
none of these. The two shapes of an agent's record, with the person's data in its own fields or in a
contact, have one image.
-/
namespace IdentitySync.Desk
open Text

/-- What a user is shown as: the names that are there, else the email, else the id. -/
inductive ShownAs (first last : String) (email : Option String) (id : String) : String → Prop where
  | bothNames (some : trim first ≠ "") (some' : trim last ≠ "") :
      ShownAs first last email id (trim first ++ " " ++ trim last)
  | firstName (some : trim first ≠ "") (none' : trim last = "") :
      ShownAs first last email id (trim first)
  | lastName (none : trim first = "") (some' : trim last ≠ "") :
      ShownAs first last email id (trim last)
  | email {e : String} (none : trim first = "") (none' : trim last = "") (known : email = some e) :
      ShownAs first last email id e
  | id (none : trim first = "") (none' : trim last = "") (unknown : email = .none) :
      ShownAs first last email id id

/-- The user signs in with the email, which is the only address and what the profile says twice, or
    there is none of all this. -/
inductive SignsIn (u : UserTrait) : Option String → Prop where
  | known {e : String} (filled : e ≠ "") (tidy : trim e = e) (login : u.login = some e)
      (emails : u.emails = [⟨e, true⟩]) (entry : u.profile.get? "login" = some (.string e))
      (entry' : u.profile.get? "email" = some (.string e)) : SignsIn u (some e)
  | unknown (login : u.login = none) (emails : u.emails = [])
      (entry : u.profile.get? "login" = some .null) (entry' : u.profile.get? "email" = some .null) :
      SignsIn u none

structure Identity where
  id : UInt64
  first : String
  last : String
  email : Option String

/-- What the image of a person says agrees with itself and with whom the record is about. -/
structure Coherent (type : String) (p : Identity) (keys : List String) (r : Resource)
    (u : UserTrait) : Prop where
  user : r.user? = some u
  shown : r.displayName ≠ "" ∧ trim r.displayName = r.displayName
  signsIn : SignsIn u p.email
  named : u.profile.get? "first_name" = some (.string p.first) ∧
    u.profile.get? "last_name" = some (.string p.last) ∧
    ShownAs p.first p.last u.login (toString p.id) r.displayName
  numbered : r.id = ⟨type, toString p.id⟩ ∧
    u.profile.get? "user_id" = some (.string (toString p.id)) ∧ recordId r.id = .ok p.id
  keys : u.profile.keys = keys

section
variable {first last : String} {email : Option String}

theorem displayName_shownAs (id : UInt64) (first last : String) (email : Option String) :
    ShownAs first last email (idText id) (displayName id first last email) := by
  have joined := trim_joined first last
  rw [displayName, nonBlank?, joined]
  by_cases none : trim first = ""
  · rw [if_pos none]
    by_cases none' : trim last = ""
    · rw [if_pos none']
      cases email with
      | some e => exact .email none none' rfl
      | none => exact .id none none' rfl
    · rw [if_neg none']
      exact .lastName none none'
  · rw [if_neg none]
    by_cases none' : trim last = ""
    · rw [if_pos none', if_neg none]
      exact .firstName none none'
    · rw [if_neg none', if_neg (by simp)]
      exact .bothNames none none'

theorem ShownAs.tidy {id : UInt64} {name : String}
    (h : ShownAs first last email (idText id) name)
    (tidy : ∀ e, email = some e → e ≠ "" ∧ trim e = e) : name ≠ "" ∧ trim name = name := by
  cases h with
  | bothNames some some' =>
    have joined := trim_joined first last
    rw [if_neg some, if_neg some'] at joined
    exact ⟨by simp, joined⟩
  | firstName some => exact ⟨some, trim_trim first⟩
  | lastName _ some' => exact ⟨some', trim_trim last⟩
  | email _ _ known => exact tidy _ known
  | id => exact ⟨numeral_ne_empty _, trim_numeral _⟩

theorem ofUser_displayName (id : ResourceId) (name : String) (u : UserTrait) :
    (Resource.ofUser id name u).displayName = name := rfl

theorem ofUser_id (id : ResourceId) (name : String) (u : UserTrait) :
    (Resource.ofUser id name u).id = id := rfl

theorem withEmail_profile (u : UserTrait) (email : Option String) :
    (withEmail u email).profile = u.profile := by
  cases email <;> rfl

theorem withEmail_login (profile : Profile) (status : UserStatus) (email : Option String) :
    (withEmail (.new profile status) email).login = email := by
  cases email <;> rfl

theorem withEmail_emails (profile : Profile) (status : UserStatus) (email : Option String) :
    (withEmail (.new profile status) email).emails = email.toList.map fun e => ⟨e, true⟩ := by
  cases email <;> rfl

def personKeys : List String := ["login", "first_name", "last_name", "email", "user_id"]

theorem image_coherent (type : String) (id : UInt64) (first last : String)
    (tidy : ∀ e, email = some e → e ≠ "" ∧ trim e = e) {more : List (String × Value)}
    (others : List String) {keys : List String} (same : more.map Prod.fst = others)
    (distinct : (personKeys ++ others).Nodup)
    (sorted : (KeyedMap.ofList ((personKeys ++ others).map fun k => (k, ()))).keys = keys)
    {u : UserTrait} (profile : u.profile = .ofList (personEntries id first last email ++ more))
    (login : u.login = email) (emails : u.emails = email.toList.map fun e => ⟨e, true⟩) :
    Coherent type ⟨id, first, last, email⟩ keys
      (.ofUser ⟨type, idText id⟩ (displayName id first last email) u) u := by
  have named : (personEntries id first last email ++ more).map Prod.fst = personKeys ++ others := by
    rw [List.map_append, same]
    rfl
  have entry : ∀ key value, (key, value) ∈ personEntries id first last email →
      u.profile.get? key = some value := by
    intro key value own
    rw [profile]
    exact KeyedMap.get?_ofList_of_mem (named ▸ distinct) (List.mem_append_left _ own)
  have loginEntry := entry "login" (optionalText email) (.head _)
  have emailEntry := entry "email" (optionalText email) (.tail _ <| .tail _ <| .tail _ <| .head _)
  have shownAs := displayName_shownAs id first last email
  constructor
  case user => rfl
  case shown =>
    rw [ofUser_displayName]
    exact shownAs.tidy tidy
  case signsIn =>
    cases email with
    | some e =>
      obtain ⟨filled, tidy⟩ := tidy e rfl
      exact .known filled tidy login emails loginEntry emailEntry
    | none => exact .unknown login emails loginEntry emailEntry
  case named =>
    rw [ofUser_displayName, login, ← idText_eq]
    exact ⟨entry _ _ (.tail _ <| .head _), entry _ _ (.tail _ <| .tail _ <| .head _), shownAs⟩
  case numbered =>
    rw [ofUser_id, ← idText_eq]
    refine ⟨rfl, ?_, recordId_idText type id⟩
    exact entry _ _ (.tail _ <| .tail _ <| .tail _ <| .tail _ <| .head _)
  case keys =>
    rw [profile, KeyedMap.keys_ofList named]
    exact sorted

end

def agentKeys : List String :=
  ["address", "email", "first_name", "job_title", "last_name", "login", "mobile_phone", "user_id",
    "work_phone"]

def requesterKeys : List String :=
  ["address", "email", "first_name", "is_agent", "job_title", "last_name", "login", "mobile_phone",
    "user_id", "work_phone"]

namespace Agent

theorem names_own {a : Agent} {own first : String} (named : a.firstName = some own)
    (left : nonBlank? own = some first) :
    a.names = (first, (a.lastName.bind nonBlank?).getD "") := by
  rw [names, named, Option.bind_some, left]
  rfl

theorem names_nested {a : Agent} (none : a.firstName = .none) (none' : a.lastName = .none) :
    a.names = splitName (((a.contact.bind AgentContact.name).bind nonBlank?).getD "") := by
  rw [names, none, none']
  rfl

theorem textOf_tidy {a : Agent} {own : Option String} {inContact : AgentContact → Option String}
    {s : String} (h : a.textOf own inContact = some s) : s ≠ "" ∧ trim s = s := by
  rcases Option.or_eq_some_iff.mp h with h | ⟨_, h⟩
  · obtain ⟨_, _, left⟩ := Option.bind_eq_some_iff.mp h
    exact nonBlank?_some left
  · obtain ⟨_, _, left⟩ := Option.bind_eq_some_iff.mp h
    exact nonBlank?_some left

theorem emailAddress_tidy {a : Agent} {e : String} (h : a.emailAddress = some e) :
    e ≠ "" ∧ trim e = e := textOf_tidy h

def identity (a : Agent) : Identity := ⟨a.id, a.names.1, a.names.2, a.emailAddress⟩

theorem resource_coherent (a : Agent) :
    ∃ u, Coherent agentId a.identity agentKeys a.resource u := by
  refine ⟨(withEmail (.new a.profile (.ofActive a.isActive)) a.emailAddress).withLastLogin
    a.lastLogin, ?_⟩
  refine image_coherent agentId a.id a.names.1 a.names.2 (fun _ => emailAddress_tidy)
    ["job_title", "mobile_phone", "work_phone", "address"] rfl ?_ ?_
    (withEmail_profile _ _) (withEmail_login _ _ _) (withEmail_emails _ _ _)
  · decide
  · decide +kernel

end Agent

namespace Requester

theorem emailAddress_tidy {r : Requester} {e : String} (h : r.emailAddress = some e) :
    e ≠ "" ∧ trim e = e := by
  obtain ⟨_, _, left⟩ := Option.bind_eq_some_iff.mp h
  exact nonBlank?_some left

def identity (r : Requester) : Identity :=
  ⟨r.id, r.firstName.getD "", r.lastName.getD "", r.emailAddress⟩

theorem resource_coherent (r : Requester) :
    ∃ u, Coherent requesterId r.identity requesterKeys r.resource u := by
  refine ⟨withEmail (.new r.profile (.ofActive (r.active.getD false))) r.emailAddress, ?_⟩
  refine image_coherent requesterId r.id (r.firstName.getD "") (r.lastName.getD "")
    (fun _ => emailAddress_tidy)
    ["job_title", "mobile_phone", "work_phone", "address", "is_agent"] rfl ?_ ?_
    (withEmail_profile _ _) (withEmail_login _ _ _) (withEmail_emails _ _ _)
  · decide
  · decide +kernel

end Requester

/-- The image of every agent and of every requester has a name to show and no white space around
    it, one email or none for all purposes, the number of the record, and its kind's entries. -/
theorem user_images_coherent :
    (∀ a : Agent, ∃ u, Coherent agentId a.identity agentKeys a.resource u) ∧
    ∀ r : Requester, ∃ u, Coherent requesterId r.identity requesterKeys r.resource u :=
  ⟨Agent.resource_coherent, Requester.resource_coherent⟩

structure PersonData where
  firstName : String
  lastName : String
  email : Option String
  active : Option Bool
  jobTitle : Option String
  mobile : Option String
  phone : Option String
  lastLoginAt : Option Time.Timestamp

namespace PersonData

def flat (p : PersonData) (rest : Agent) : Agent :=
  { rest with
    firstName := some p.firstName
    lastName := some p.lastName
    email := p.email
    active := p.active
    jobTitle := p.jobTitle
    mobilePhone := p.mobile
    workPhone := p.phone
    lastLoginAt := p.lastLoginAt
    contact := none }

def contact (p : PersonData) : AgentContact :=
  ⟨some (p.firstName ++ " " ++ trim p.lastName), p.email, p.active, p.jobTitle, p.mobile, p.phone,
    p.lastLoginAt⟩

/-- The record with the data in a contact and nothing of it in its own fields. -/
def nested (p : PersonData) (rest : Agent) : Agent :=
  { rest with
    firstName := none
    lastName := none
    email := none
    active := none
    jobTitle := none
    mobilePhone := none
    workPhone := none
    lastLoginAt := none
    contact := some p.contact }

variable {p : PersonData} {rest : Agent}

theorem flat_names (tidy : trim p.firstName = p.firstName) (filled : p.firstName ≠ "") :
    (p.flat rest).names = (p.firstName, trim p.lastName) := by
  have left : nonBlank? p.firstName = some p.firstName := by
    rw [nonBlank?_of_filled (tidy.symm ▸ filled), tidy]
  have last : (p.flat rest).lastName = some p.lastName := rfl
  rw [Agent.names_own rfl left, last, Option.bind_some, nonBlank?_getD]

theorem nested_names (tidy : trim p.firstName = p.firstName) (filled : p.firstName ≠ "")
    (unspaced : ' ' ∉ p.firstName.toList) :
    (p.nested rest).names = (p.firstName, trim p.lastName) := by
  have joined := trim_joined p.firstName p.lastName
  rw [tidy, if_neg filled] at joined
  have full : ((p.nested rest).contact.bind AgentContact.name).bind nonBlank? =
      some (trim (p.firstName ++ " " ++ trim p.lastName)) := by
    apply nonBlank?_of_filled
    rw [joined]
    split
    · exact filled
    · simp
  rw [Agent.names_nested rfl rfl, full, Option.getD_some, joined, Agent.splitName]
  by_cases none : trim p.lastName = ""
  · rw [if_pos none, splitFirst_of_notMem unspaced, none]
  · have cut : (p.firstName ++ " " ++ trim p.lastName).toList =
        p.firstName.toList ++ ' ' :: (trim p.lastName).toList := by
      simp
    rw [if_neg none, cut, splitFirst_append _ unspaced]
    simp only [String.ofList_toList, trim_trim]

theorem nested_text (inContact : AgentContact → Option String) :
    (p.nested rest).textOf none inContact = (inContact p.contact).bind nonBlank? :=
  Option.none_or

theorem flat_text (own : Option String) (inContact : AgentContact → Option String) :
    (p.flat rest).textOf own inContact = own.bind nonBlank? :=
  Option.or_none

theorem nested_text_eq_flat (own : Option String) (inContact : AgentContact → Option String)
    (same : inContact p.contact = own) :
    (p.nested rest).textOf none inContact = (p.flat rest).textOf own inContact := by
  rw [nested_text, flat_text, same]

end PersonData

theorem Agent.resource_eq {a a' : Agent} (id : a.id = a'.id) (names : a.names = a'.names)
    (email : a.emailAddress = a'.emailAddress) (title : a.title = a'.title)
    (mobile : a.mobileNumber = a'.mobileNumber) (work : a.workNumber = a'.workNumber)
    (address : a.address = a'.address) (active : a.isActive = a'.isActive)
    (login : a.lastLogin = a'.lastLogin) : a.resource = a'.resource := by
  simp only [resource, profile, id, names, email, title, mobile, work, address, active, login]

/-- An agent has one image, whether the record has the person's data in its own fields or in a
    contact. The contact has the whole name, which comes apart again behind the first name if this
    is one word with nothing around it. -/
theorem both_shapes_have_one_image (p : PersonData) (rest : Agent)
    (tidy : trim p.firstName = p.firstName) (filled : p.firstName ≠ "")
    (unspaced : ' ' ∉ p.firstName.toList) : (p.nested rest).resource = (p.flat rest).resource := by
  apply Agent.resource_eq
  case id => rfl
  case names =>
    rw [PersonData.nested_names tidy filled unspaced, PersonData.flat_names tidy filled]
  case email => exact PersonData.nested_text_eq_flat p.email AgentContact.email rfl
  case title => exact PersonData.nested_text_eq_flat p.jobTitle AgentContact.jobTitle rfl
  case mobile => exact PersonData.nested_text_eq_flat p.mobile AgentContact.mobile rfl
  case work => exact PersonData.nested_text_eq_flat p.phone AgentContact.phone rfl
  case address => rfl
  case active =>
    have same : p.active.or none = p.active := Option.or_none
    rw [Agent.isActive, Agent.isActive, PersonData.flat, Option.bind_none, same]
    rfl
  case login =>
    have same : p.lastLoginAt.or none = p.lastLoginAt := Option.or_none
    rw [Agent.lastLogin, Agent.lastLogin, PersonData.flat, Option.bind_none, same]
    rfl

def grace : PersonData :=
  ⟨"Grace", "\u00a0 Brewster Hopper ", some " grace@acme.org", some false, some "  ", none,
    some "12", none⟩

def graceRest : Agent :=
  ⟨8, none, none, none, none, [], none, none, none, some "Arlington", none, none, some false, none,
    some "fulltime"⟩

theorem grace_has_one_image :
    (grace.nested graceRest).resource = (grace.flat graceRest).resource ∧
      (grace.nested graceRest).contact.bind AgentContact.name = some "Grace Brewster Hopper" ∧
      (grace.nested graceRest).resource.displayName = "Grace Brewster Hopper" := by
  have one := both_shapes_have_one_image grace graceRest (by decide +kernel) (by decide)
    (by decide +kernel)
  exact ⟨one, by decide +kernel, by decide +kernel⟩

end IdentitySync.Desk
