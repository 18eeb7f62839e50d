import IdentitySync.Access.Resource

/-!
An entitlement is something a resource can grant; a grant gives it to one principal. Their ids are
built from the ids of what they join.
-/
namespace IdentitySync

inductive EntitlementPurpose where
  | assignment
  | permission
deriving DecidableEq, Repr

namespace EntitlementPurpose

def name : EntitlementPurpose → String
  | .assignment => "assignment"
  | .permission => "permission"

def codec : Codec EntitlementPurpose := .named name [.assignment, .permission]

end EntitlementPurpose

structure Entitlement where
  id : String
  resource : Resource
  slug : String
  displayName : String
  description : Option String
  purpose : EntitlementPurpose
  grantableTo : List String
  annotations : Annotations

namespace Entitlement

def idFor (resource : ResourceId) (slug : String) : String :=
  resource.resourceType ++ ":" ++ resource.resource ++ ":" ++ slug

def assignment (resource : Resource) (slug : String) : Entitlement :=
  ⟨idFor resource.id slug, resource, slug, resource.displayName ++ " " ++ slug, none,
    .assignment, [], []⟩

def named (e : Entitlement) (displayName : String) : Entitlement :=
  { e with displayName := displayName }

def describedAs (e : Entitlement) (text : String) : Entitlement :=
  { e with description := some text }

def grantableAlsoTo (e : Entitlement) (resourceType : String) : Entitlement :=
  { e with grantableTo := e.grantableTo ++ [resourceType] }

def fields := Fields.cons (.required "id" .string) <|
  .cons (.required "resource" Resource.codec) <|
  .cons (.required "slug" .string) <|
  .cons (.required "display_name" .string) <|
  .cons (.optional "description" .string) <|
  .cons (.defaulted "purpose" EntitlementPurpose.codec .assignment) <|
  .cons (.defaulted "grantable_to" (.list .string) []) <|
  .cons (.defaulted "annotations" Annotations.codec []) .nil

def view (e : Entitlement) :=
  (e.id, e.resource, e.slug, e.displayName, e.description, e.purpose, e.grantableTo,
    e.annotations, ())

def codec : Codec Entitlement :=
  .record "struct Entitlement" fields view
    fun (id, resource, slug, displayName, description, purpose, grantableTo, annotations, ()) =>
      ⟨id, resource, slug, displayName, description, purpose, grantableTo, annotations⟩

end Entitlement

structure Grant where
  id : String
  entitlement : Entitlement
  principal : ResourceId
  annotations : Annotations

namespace Grant

def idFor (entitlementId : String) (principal : ResourceId) : String :=
  entitlementId ++ ":" ++ principal.resourceType ++ ":" ++ principal.resource

def new (e : Entitlement) (principal : ResourceId) : Grant :=
  ⟨idFor e.id principal, e, principal, []⟩

def fields := Fields.cons (.required "id" .string) <|
  .cons (.required "entitlement" Entitlement.codec) <|
  .cons (.required "principal" ResourceId.codec) <|
  .cons (.defaulted "annotations" Annotations.codec []) .nil

def view (g : Grant) := (g.id, g.entitlement, g.principal, g.annotations, ())

def codec : Codec Grant :=
  .record "struct Grant" fields view fun (id, entitlement, principal, annotations, ()) =>
    ⟨id, entitlement, principal, annotations⟩

end Grant

end IdentitySync
