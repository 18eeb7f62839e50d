import IdentitySync.Access.Credentials
import IdentitySync.Access.Entitlement
import IdentitySync.Paging.PageStack
import IdentitySync.Proofs.Json.Exact
import IdentitySync.Ticket.Basic

/-!
The JSON forms of resources, of what can be granted on them, and of tickets. What a form leaves out
is what its reader takes for missing, and no field has the name of a tag beside it, so every form is
exact: nothing is lost on the way to a value and back.
-/
namespace IdentitySync
open IdentitySync.Codec IdentitySync.Field

theorem RateLimitStatus.codec_exact : RateLimitStatus.codec.Exact :=
  named_exact fun a => by cases a <;> rfl

namespace RateLimit

theorem fields_exact : fields.Exact :=
  ⟨required_exact _ RateLimitStatus.codec_exact, by decide, required_exact _ word64_exact,
    by decide, required_exact _ word64_exact, by decide,
    optional_exact _ timestamp_exact timestamp_neverNull, by decide, trivial⟩

end RateLimit

theorem Annotation.codec_exact : Annotation.codec.Exact := by
  refine tagged_exact fun a => ?_
  cases a with
  | rateLimit r =>
    exact ⟨_, rfl, Content.record_exact RateLimit.fields_exact (by decide) (fun _ => rfl) _ r⟩
  | grantAlreadyExists => exact ⟨_, rfl, Content.nothing_exact _ _⟩
  | grantAlreadyRevoked => exact ⟨_, rfl, Content.nothing_exact _ _⟩
  | skipEntitlementsAndGrants => exact ⟨_, rfl, Content.nothing_exact _ _⟩

theorem Annotations.codec_exact : Annotations.codec.Exact := list_exact Annotation.codec_exact

theorem TraitKind.codec_exact : TraitKind.codec.Exact := named_exact fun a => by cases a <;> rfl

namespace ResourceType

theorem fields_exact : fields.Exact :=
  ⟨required_exact _ string_exact, by decide, required_exact _ string_exact, by decide,
    optional_exact _ string_exact string_neverNull, by decide,
    defaulted_exact _ (list_exact TraitKind.codec_exact) _, by decide,
    defaulted_exact _ Annotations.codec_exact _, by decide, trivial⟩

theorem codec_exact : codec.Exact := record_exact fields_exact fun _ => rfl

end ResourceType

namespace ResourceId

theorem fields_exact : fields.Exact :=
  ⟨required_exact _ string_exact, by decide, required_exact _ string_exact, by decide, trivial⟩

theorem codec_exact : codec.Exact := record_exact fields_exact fun _ => rfl

end ResourceId

theorem UserStatus.codec_exact : UserStatus.codec.Exact := named_exact fun a => by cases a <;> rfl

namespace UserEmail

theorem fields_exact : fields.Exact :=
  ⟨required_exact _ string_exact, by decide, defaulted_exact _ bool_exact _, by decide, trivial⟩

theorem codec_exact : codec.Exact := record_exact fields_exact fun _ => rfl

end UserEmail

theorem Profile.codec_exact : Profile.codec.Exact := map_exact value_exact

theorem UserTrait.fields_exact : UserTrait.fields.Exact :=
  ⟨defaulted_exact _ Profile.codec_exact _, by decide,
    defaulted_exact _ UserStatus.codec_exact _, by decide,
    optional_exact _ string_exact string_neverNull, by decide,
    defaulted_exact _ (list_exact UserEmail.codec_exact) _, by decide,
    optional_exact _ timestamp_exact timestamp_neverNull, by decide, trivial⟩

theorem profileFields_exact : profileFields.Exact :=
  ⟨defaulted_exact _ Profile.codec_exact _, by decide, trivial⟩

theorem ResourceTraits.codec_exact : ResourceTraits.codec.Exact := by
  refine tagged_exact fun t => ?_
  cases t with
  | user u =>
    exact ⟨_, rfl, Content.record_exact UserTrait.fields_exact (by decide) (fun _ => rfl) _ u⟩
  | group g =>
    exact ⟨_, rfl, Content.record_exact profileFields_exact (by decide) (fun _ => rfl) _ g⟩
  | role r =>
    exact ⟨_, rfl, Content.record_exact profileFields_exact (by decide) (fun _ => rfl) _ r⟩

namespace Resource

theorem fields_exact : fields.Exact :=
  ⟨required_exact _ ResourceId.codec_exact, by decide, required_exact _ string_exact, by decide,
    optional_exact _ ResourceId.codec_exact (record_neverNull _ _ _ _), by decide,
    optional_exact _ ResourceTraits.codec_exact (tagged_neverNull _ _ _ _), by decide,
    defaulted_exact _ Annotations.codec_exact _, by decide, trivial⟩

theorem codec_exact : codec.Exact := record_exact fields_exact fun _ => rfl

end Resource

theorem EntitlementPurpose.codec_exact : EntitlementPurpose.codec.Exact :=
  named_exact fun a => by cases a <;> rfl

namespace Entitlement

theorem fields_exact : fields.Exact :=
  ⟨required_exact _ string_exact, by decide, required_exact _ Resource.codec_exact, by decide,
    required_exact _ string_exact, by decide, required_exact _ string_exact, by decide,
    optional_exact _ string_exact string_neverNull, by decide,
    defaulted_exact _ EntitlementPurpose.codec_exact _, by decide,
    defaulted_exact _ (list_exact string_exact) _, by decide,
    defaulted_exact _ Annotations.codec_exact _, by decide, trivial⟩

theorem codec_exact : codec.Exact := record_exact fields_exact fun _ => rfl

end Entitlement

namespace Grant

theorem fields_exact : fields.Exact :=
  ⟨required_exact _ string_exact, by decide, required_exact _ Entitlement.codec_exact, by decide,
    required_exact _ ResourceId.codec_exact, by decide,
    defaulted_exact _ Annotations.codec_exact _, by decide, trivial⟩

theorem codec_exact : codec.Exact := record_exact fields_exact fun _ => rfl

end Grant

namespace PageToken

theorem fields_exact : fields.Exact :=
  ⟨defaulted_exact _ string_exact _, by decide, defaulted_exact _ word32_exact _, by decide,
    trivial⟩

theorem codec_exact : codec.Exact := record_exact fields_exact fun _ => rfl

end PageToken

namespace Credentials

theorem passwordField_exact : passwordField.Exact := by
  obtain ⟨faithful, distinct⟩ := optional_exact "password" string_exact string_neverNull
  exact ⟨⟨faithful.shown, faithful.missing⟩, distinct⟩

theorem basicFields_exact : basicFields.Exact :=
  ⟨required_exact _ string_exact, by decide, passwordField_exact, by decide, trivial⟩

theorem bearerFields_exact : bearerFields.Exact :=
  ⟨required_exact _ string_exact, by decide, trivial⟩

theorem codec_exact : codec.Exact := by
  refine tagged_exact fun c => ?_
  cases c with
  | anonymous => exact ⟨_, rfl, Content.nothing_exact _ _⟩
  | basic username password =>
    exact ⟨_, rfl, Content.fields_exact basicFields_exact (by decide) _ _ (username, password, ())⟩
  | bearer token =>
    exact ⟨_, rfl, Content.fields_exact bearerFields_exact (by decide) _ _ (token, ())⟩

end Credentials

namespace TicketStatus

theorem fields_exact : fields.Exact :=
  ⟨required_exact _ string_exact, by decide, required_exact _ string_exact, by decide, trivial⟩

theorem codec_exact : codec.Exact := record_exact fields_exact fun _ => rfl

end TicketStatus

theorem allowedFields_exact : allowedFields.Exact :=
  ⟨required_exact _ (list_exact string_exact), by decide, trivial⟩

theorem FieldKind.codec_exact : FieldKind.codec.Exact := by
  refine tagged_exact fun k => ?_
  cases k with
  | text => exact ⟨_, rfl, Content.nothing_exact _ _⟩
  | texts => exact ⟨_, rfl, Content.nothing_exact _ _⟩
  | flag => exact ⟨_, rfl, Content.nothing_exact _ _⟩
  | moment => exact ⟨_, rfl, Content.nothing_exact _ _⟩
  | pick allowed =>
    exact ⟨_, rfl, Content.fields_exact allowedFields_exact (by decide) _ _ (allowed, ())⟩
  | picks allowed =>
    exact ⟨_, rfl, Content.fields_exact allowedFields_exact (by decide) _ _ (allowed, ())⟩

namespace FieldValue

theorem reader_shown {c : Codec α} (h : c.Exact) (f : α → FieldValue) (a : α) (src : Source)
    (d : Document) (shown : (c.encode a).ShownBy d) : reader c f src d = .ok (f a) := by
  rw [reader, h.faithful src a d shown]
  rfl

theorem codec_exact : codec.Exact := by
  refine adjacent_exact (by decide) fun v => ?_
  have strings : (list string).Exact := list_exact string_exact
  cases v with
  | text s => exact ⟨_, rfl, string_exact.distinct s, reader_shown string_exact _ s⟩
  | texts xs => exact ⟨_, rfl, strings.distinct xs, reader_shown strings _ xs⟩
  | flag b => exact ⟨_, rfl, bool_exact.distinct b, reader_shown bool_exact _ b⟩
  | moment t => exact ⟨_, rfl, timestamp_exact.distinct t, reader_shown timestamp_exact _ t⟩
  | pick s => exact ⟨_, rfl, string_exact.distinct s, reader_shown string_exact _ s⟩
  | picks xs => exact ⟨_, rfl, strings.distinct xs, reader_shown strings _ xs⟩

end FieldValue

namespace TicketField

theorem fields_exact : fields.Exact :=
  ⟨required_exact _ string_exact, by decide, required_exact _ string_exact, by decide,
    optional_exact _ string_exact string_neverNull, by decide, defaulted_exact _ bool_exact _,
    by decide, required_exact _ FieldKind.codec_exact, by decide, trivial⟩

theorem codec_exact : codec.Exact := record_exact fields_exact fun _ => rfl

end TicketField

namespace TicketSchema

theorem fields_exact : fields.Exact :=
  ⟨required_exact _ string_exact, by decide, required_exact _ string_exact, by decide,
    defaulted_exact _ (map_exact TicketField.codec_exact) _, by decide,
    defaulted_exact _ (list_exact TicketStatus.codec_exact) _, by decide, trivial⟩

theorem codec_exact : codec.Exact := record_exact fields_exact fun _ => rfl

end TicketSchema

namespace Ticket

theorem fields_exact : fields.Exact :=
  ⟨defaulted_exact _ string_exact _, by decide, defaulted_exact _ string_exact _, by decide,
    defaulted_exact _ string_exact _, by decide,
    optional_exact _ TicketStatus.codec_exact (record_neverNull _ _ _ _), by decide,
    defaulted_exact _ (list_exact string_exact) _, by decide,
    optional_exact _ string_exact string_neverNull, by decide,
    optional_exact _ timestamp_exact timestamp_neverNull, by decide,
    optional_exact _ timestamp_exact timestamp_neverNull, by decide,
    defaulted_exact _ (map_exact FieldValue.codec_exact) _, by decide,
    optional_exact _ Resource.codec_exact (record_neverNull _ _ _ _), by decide,
    optional_exact _ Resource.codec_exact (record_neverNull _ _ _ _), by decide, trivial⟩

theorem codec_exact : codec.Exact := record_exact fields_exact fun _ => rfl

end Ticket

/-- Whatever is encoded to a value is decoded from it. -/
theorem forms_round_trip :
    ResourceType.codec.RoundTrips ∧ Resource.codec.RoundTrips ∧ Entitlement.codec.RoundTrips ∧
    Grant.codec.RoundTrips ∧ Annotations.codec.RoundTrips ∧ PageToken.codec.RoundTrips ∧
    TicketSchema.codec.RoundTrips ∧ TicketField.codec.RoundTrips ∧ FieldValue.codec.RoundTrips ∧
    Ticket.codec.RoundTrips ∧ Credentials.codec.RoundTrips :=
  ⟨ResourceType.codec_exact.roundTrips, Resource.codec_exact.roundTrips,
    Entitlement.codec_exact.roundTrips, Grant.codec_exact.roundTrips,
    Annotations.codec_exact.roundTrips, PageToken.codec_exact.roundTrips,
    TicketSchema.codec_exact.roundTrips, TicketField.codec_exact.roundTrips,
    FieldValue.codec_exact.roundTrips, Ticket.codec_exact.roundTrips,
    Credentials.codec_exact.roundTrips⟩

end IdentitySync
