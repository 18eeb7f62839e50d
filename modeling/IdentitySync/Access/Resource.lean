import IdentitySync.Access.Annotation
import IdentitySync.Text.Blank

/-!
Resources: users, groups and roles of a target system, the types they belong to, and the data that
a user, a group or a role carries.
-/
namespace IdentitySync
open Time

inductive TraitKind where
  | user
  | group
  | role
deriving DecidableEq, Repr

namespace TraitKind

def all : List TraitKind := [user, group, role]

def name : TraitKind → String
  | .user => "user"
  | .group => "group"
  | .role => "role"

def codec : Codec TraitKind := .named name all

/-- Reads a name in capital or small letters. Only ASCII letters have the letters of the three
    names as their small forms, so lowering those is enough. -/
def ofText? (s : String) : Option TraitKind := all.find? fun k => k.name = Text.lowerAscii s

def refusal (s : String) : String :=
  "invalid trait kind '" ++ s ++ "', expected one of: user, group, role"

end TraitKind

structure ResourceType where
  id : String
  displayName : String
  description : Option String
  traits : List TraitKind
  annotations : Annotations
deriving DecidableEq

namespace ResourceType

def new (id displayName : String) : ResourceType := ⟨id, displayName, none, [], []⟩

def describedAs (t : ResourceType) (text : String) : ResourceType :=
  { t with description := some text }

def withTrait (t : ResourceType) (k : TraitKind) : ResourceType :=
  if k ∈ t.traits then t else { t with traits := t.traits ++ [k] }

def annotatedWith (t : ResourceType) (a : Annotation) : ResourceType :=
  { t with annotations := t.annotations ++ [a] }

def hasTrait (t : ResourceType) (k : TraitKind) : Bool := t.traits.contains k

def fields := Fields.cons (.required "id" .string) <| .cons (.required "display_name" .string) <|
  .cons (.optional "description" .string) <|
  .cons (.defaulted "traits" (.list TraitKind.codec) []) <|
  .cons (.defaulted "annotations" Annotations.codec []) .nil

def view (t : ResourceType) := (t.id, t.displayName, t.description, t.traits, t.annotations, ())

def codec : Codec ResourceType :=
  .record "struct ResourceType" fields view
    fun (id, displayName, description, traits, annotations, ()) =>
      ⟨id, displayName, description, traits, annotations⟩

end ResourceType

structure ResourceId where
  resourceType : String
  resource : String
deriving DecidableEq, Repr, Inhabited

namespace ResourceId

def text (id : ResourceId) : String := id.resourceType ++ ":" ++ id.resource

def fields := Fields.cons (.required "resource_type" .string) <|
  .cons (.required "resource" .string) .nil

def view (id : ResourceId) := (id.resourceType, id.resource, ())

def codec : Codec ResourceId :=
  .record "struct ResourceId" fields view fun (resourceType, resource, ()) =>
    ⟨resourceType, resource⟩

end ResourceId

inductive UserStatus where
  | enabled
  | disabled
deriving DecidableEq, Repr

namespace UserStatus

def name : UserStatus → String
  | .enabled => "enabled"
  | .disabled => "disabled"

def codec : Codec UserStatus := .named name [.enabled, .disabled]

def ofActive (active : Bool) : UserStatus := if active then .enabled else .disabled

end UserStatus

structure UserEmail where
  address : String
  isPrimary : Bool
deriving DecidableEq, Repr

namespace UserEmail

def fields := Fields.cons (.required "address" .string) <|
  .cons (.defaulted "is_primary" .bool false) .nil

def view (e : UserEmail) := (e.address, e.isPrimary, ())

def codec : Codec UserEmail :=
  .record "struct UserEmail" fields view fun (address, isPrimary, ()) => ⟨address, isPrimary⟩

end UserEmail

abbrev Profile := KeyedMap Value

def Profile.codec : Codec Profile := .map .value

structure UserTrait where
  profile : Profile
  status : UserStatus
  login : Option String
  emails : List UserEmail
  lastLogin : Option Timestamp

namespace UserTrait

def new (profile : Profile) (status : UserStatus) : UserTrait := ⟨profile, status, none, [], none⟩

def withLogin (u : UserTrait) (login : String) : UserTrait := { u with login := some login }

def withEmail (u : UserTrait) (address : String) (isPrimary : Bool) : UserTrait :=
  { u with emails := u.emails ++ [⟨address, isPrimary⟩] }

def withLastLogin (u : UserTrait) (moment : Option Timestamp) : UserTrait :=
  { u with lastLogin := moment }

def profileText? (u : UserTrait) (key : String) : Option String :=
  match (u.profile.get? key).map Value.json with
  | some (.string s) => some s
  | _ => none

def fields := Fields.cons (.defaulted "profile" Profile.codec .empty) <|
  .cons (.defaulted "status" UserStatus.codec .disabled) <|
  .cons (.optional "login" .string) <|
  .cons (.defaulted "emails" (.list UserEmail.codec) []) <|
  .cons (.optional "last_login" .timestamp) .nil

def view (u : UserTrait) := (u.profile, u.status, u.login, u.emails, u.lastLogin, ())

def codec : Codec UserTrait :=
  .record "struct UserTrait" fields view fun (profile, status, login, emails, lastLogin, ()) =>
    ⟨profile, status, login, emails, lastLogin⟩

end UserTrait

def profileFields := Fields.cons (.defaulted "profile" Profile.codec .empty) .nil

structure GroupTrait where
  profile : Profile

namespace GroupTrait

def view (g : GroupTrait) := (g.profile, ())

def codec : Codec GroupTrait :=
  .record "struct GroupTrait" profileFields view fun (profile, ()) => ⟨profile⟩

end GroupTrait

structure RoleTrait where
  profile : Profile

namespace RoleTrait

def view (r : RoleTrait) := (r.profile, ())

def codec : Codec RoleTrait :=
  .record "struct RoleTrait" profileFields view fun (profile, ()) => ⟨profile⟩

end RoleTrait

inductive ResourceTraits where
  | user (u : UserTrait)
  | group (g : GroupTrait)
  | role (r : RoleTrait)

namespace ResourceTraits

def written : ResourceTraits → String × List (String × Json)
  | .user u => ("user", UserTrait.fields.encode u.view)
  | .group g => ("group", profileFields.encode g.view)
  | .role r => ("role", profileFields.encode r.view)

def codec : Codec ResourceTraits :=
  .tagged "ResourceTraits" "kind"
    [("user", fun d => (UserTrait.codec.decode .aside d).map .user),
     ("group", fun d => (GroupTrait.codec.decode .aside d).map .group),
     ("role", fun d => (RoleTrait.codec.decode .aside d).map .role)] written

end ResourceTraits

structure Resource where
  id : ResourceId
  displayName : String
  parent : Option ResourceId
  traits : Option ResourceTraits
  annotations : Annotations

namespace Resource

def new (id : ResourceId) (displayName : String) : Resource := ⟨id, displayName, none, none, []⟩

def withTraits (r : Resource) (t : ResourceTraits) : Resource := { r with traits := some t }

def withParent (r : Resource) (id : ResourceId) : Resource := { r with parent := some id }

def ofUser (id : ResourceId) (displayName : String) (u : UserTrait) : Resource :=
  (new id displayName).withTraits (.user u)

def ofGroup (id : ResourceId) (displayName : String) (profile : Profile) : Resource :=
  (new id displayName).withTraits (.group ⟨profile⟩)

def ofRole (id : ResourceId) (displayName : String) (profile : Profile) : Resource :=
  (new id displayName).withTraits (.role ⟨profile⟩)

def user? (r : Resource) : Option UserTrait :=
  match r.traits with
  | some (.user u) => some u
  | _ => none

def group? (r : Resource) : Option GroupTrait :=
  match r.traits with
  | some (.group g) => some g
  | _ => none

def role? (r : Resource) : Option RoleTrait :=
  match r.traits with
  | some (.role t) => some t
  | _ => none

def fields := Fields.cons (.required "id" ResourceId.codec) <|
  .cons (.required "display_name" .string) <|
  .cons (.optional "parent" ResourceId.codec) <|
  .cons (.optional "traits" ResourceTraits.codec) <|
  .cons (.defaulted "annotations" Annotations.codec []) .nil

def view (r : Resource) := (r.id, r.displayName, r.parent, r.traits, r.annotations, ())

def codec : Codec Resource :=
  .record "struct Resource" fields view fun (id, displayName, parent, traits, annotations, ()) =>
    ⟨id, displayName, parent, traits, annotations⟩

end Resource

end IdentitySync
