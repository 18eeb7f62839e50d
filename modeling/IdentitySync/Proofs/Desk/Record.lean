import IdentitySync.Desk.Directory
import IdentitySync.Desk.Agent
import IdentitySync.Proofs.Json.Sorted

/-!
Records of the directory are read back from what their codecs write. What is encoded of a group's
members or of an agent's roles is decoded to the same list, so a list that is read and written
again loses nothing.
-/
namespace IdentitySync.Desk
open Codec

namespace AgentRole

theorem fields_faithful : fields.Faithful :=
  ⟨Field.required_faithful _ word64_faithful, by decide,
    Field.optional_faithful _ string_faithful string_neverNull, by decide,
    Field.optional_faithful _ (list_faithful word64_faithful) (list_neverNull _),
    by decide, trivial⟩

theorem codec_faithful : codec.Faithful := record_faithful fields_faithful fun _ => rfl

theorem codec_fits : codec.Fits 2 :=
  record_fits (by decide)
    ⟨Field.required_fits _ (word64_fits 1), Field.optional_fits _ (string_fits 1),
      Field.optional_fits _ (list_fits (word64_fits 0)), trivial⟩

end AgentRole

namespace AgentContact

theorem fields_faithful : fields.Faithful :=
  ⟨Field.nullable_faithful _ string_faithful string_neverNull, by decide,
    Field.nullable_faithful _ string_faithful string_neverNull, by decide,
    Field.nullable_faithful _ bool_faithful bool_neverNull, by decide,
    Field.nullable_faithful _ string_faithful string_neverNull, by decide,
    Field.nullable_faithful _ string_faithful string_neverNull, by decide,
    Field.nullable_faithful _ string_faithful string_neverNull, by decide,
    Field.nullable_faithful _ timestamp_faithful timestamp_neverNull, by decide, trivial⟩

theorem codec_faithful : codec.Faithful := record_faithful fields_faithful fun _ => rfl

theorem codec_fits (h : Nat) : codec.Fits (h + 1) :=
  record_fits (by decide)
    ⟨Field.nullable_fits _ (string_fits h), Field.nullable_fits _ (string_fits h),
      Field.nullable_fits _ (bool_fits h), Field.nullable_fits _ (string_fits h),
      Field.nullable_fits _ (string_fits h), Field.nullable_fits _ (string_fits h),
      Field.nullable_fits _ (timestamp_fits h), trivial⟩

end AgentContact

namespace Agent

theorem fields_faithful : fields.Faithful :=
  ⟨Field.required_faithful _ word64_faithful, by decide,
    Field.nullable_faithful _ string_faithful string_neverNull, by decide,
    Field.nullable_faithful _ string_faithful string_neverNull, by decide,
    Field.nullable_faithful _ string_faithful string_neverNull, by decide,
    Field.nullable_faithful _ bool_faithful bool_neverNull, by decide,
    Field.defaulted_faithful "roles"
      (orDefault_faithful (list_faithful AgentRole.codec_faithful) (list_neverNull _) []) [],
    by decide,
    Field.nullable_faithful _ string_faithful string_neverNull, by decide,
    Field.nullable_faithful _ string_faithful string_neverNull, by decide,
    Field.nullable_faithful _ string_faithful string_neverNull, by decide,
    Field.nullable_faithful _ string_faithful string_neverNull, by decide,
    Field.nullable_faithful _ timestamp_faithful timestamp_neverNull, by decide,
    Field.nullable_faithful _ AgentContact.codec_faithful (record_neverNull _ _ _ _), by decide,
    Field.nullable_faithful _ bool_faithful bool_neverNull, by decide,
    Field.nullable_faithful _ timestamp_faithful timestamp_neverNull, by decide,
    Field.nullable_faithful _ string_faithful string_neverNull, by decide, trivial⟩

theorem codec_faithful : codec.Faithful := record_faithful fields_faithful fun _ => rfl

theorem codec_fits : codec.Fits 4 :=
  record_fits (by decide)
    ⟨Field.required_fits _ (word64_fits 3), Field.nullable_fits _ (string_fits 3),
      Field.nullable_fits _ (string_fits 3), Field.nullable_fits _ (string_fits 3),
      Field.nullable_fits _ (bool_fits 3),
      Field.defaulted_fits _ (orDefault_fits (list_fits AgentRole.codec_fits) _) _,
      Field.nullable_fits _ (string_fits 3), Field.nullable_fits _ (string_fits 3),
      Field.nullable_fits _ (string_fits 3), Field.nullable_fits _ (string_fits 3),
      Field.nullable_fits _ (timestamp_fits 3), Field.nullable_fits _ (AgentContact.codec_fits 2),
      Field.nullable_fits _ (bool_fits 3), Field.nullable_fits _ (timestamp_fits 3),
      Field.nullable_fits _ (string_fits 3), trivial⟩

end Agent

namespace AgentGroup

theorem fields_faithful : fields.Faithful :=
  ⟨Field.required_faithful _ word64_faithful, by decide,
    Field.defaulted_faithful _ string_faithful _, by decide,
    Field.nullable_faithful _ string_faithful string_neverNull, by decide,
    Field.defaulted_faithful "members"
      (orDefault_faithful (list_faithful word64_faithful) (list_neverNull _) []) [], by decide,
    Field.optional_faithful _ (list_faithful word64_faithful) (list_neverNull _),
    by decide, trivial⟩

theorem codec_faithful : codec.Faithful := record_faithful fields_faithful fun _ => rfl

theorem codec_fits : codec.Fits 2 :=
  record_fits (by decide)
    ⟨Field.required_fits _ (word64_fits 1), Field.defaulted_fits _ (string_fits 1) _,
      Field.nullable_fits _ (string_fits 1),
      Field.defaulted_fits _ (orDefault_fits (list_fits (word64_fits 0)) _) _,
      Field.optional_fits _ (list_fits (word64_fits 0)), trivial⟩

end AgentGroup

namespace Requester

theorem fields_faithful : fields.Faithful :=
  ⟨Field.required_faithful _ word64_faithful, by decide,
    Field.nullable_faithful _ string_faithful string_neverNull, by decide,
    Field.nullable_faithful _ string_faithful string_neverNull, by decide,
    Field.nullable_faithful _ string_faithful string_neverNull, by decide,
    Field.nullable_faithful _ bool_faithful bool_neverNull, by decide,
    Field.nullable_faithful _ bool_faithful bool_neverNull, by decide,
    Field.nullable_faithful _ string_faithful string_neverNull, by decide,
    Field.nullable_faithful _ string_faithful string_neverNull, by decide,
    Field.nullable_faithful _ string_faithful string_neverNull, by decide,
    Field.nullable_faithful _ string_faithful string_neverNull, by decide, trivial⟩

theorem codec_faithful : codec.Faithful := record_faithful fields_faithful fun _ => rfl

theorem codec_fits : codec.Fits 1 :=
  record_fits (by decide)
    ⟨Field.required_fits _ (word64_fits 0), Field.nullable_fits _ (string_fits 0),
      Field.nullable_fits _ (string_fits 0), Field.nullable_fits _ (string_fits 0),
      Field.nullable_fits _ (bool_fits 0), Field.nullable_fits _ (bool_fits 0),
      Field.nullable_fits _ (string_fits 0), Field.nullable_fits _ (string_fits 0),
      Field.nullable_fits _ (string_fits 0), Field.nullable_fits _ (string_fits 0), trivial⟩

end Requester

namespace Role

theorem fields_faithful : fields.Faithful :=
  ⟨Field.required_faithful _ word64_faithful, by decide,
    Field.defaulted_faithful _ string_faithful _, by decide,
    Field.nullable_faithful _ string_faithful string_neverNull, by decide,
    Field.nullable_faithful _ integer_faithful integer_neverNull, by decide, trivial⟩

theorem codec_faithful : codec.Faithful := record_faithful fields_faithful fun _ => rfl

theorem codec_fits : codec.Fits 1 :=
  record_fits (by decide)
    ⟨Field.required_fits _ (word64_fits 0), Field.defaulted_fits _ (string_fits 0) _,
      Field.nullable_fits _ (string_fits 0), Field.nullable_fits _ (integer_fits 0), trivial⟩

end Role

namespace RequesterGroup

theorem fields_faithful : fields.Faithful :=
  ⟨Field.required_faithful _ word64_faithful, by decide,
    Field.defaulted_faithful _ string_faithful _, by decide,
    Field.nullable_faithful _ string_faithful string_neverNull, by decide,
    Field.nullable_faithful _ string_faithful string_neverNull, by decide, trivial⟩

theorem codec_faithful : codec.Faithful := record_faithful fields_faithful fun _ => rfl

theorem codec_fits : codec.Fits 1 :=
  record_fits (by decide)
    ⟨Field.required_fits _ (word64_fits 0), Field.defaulted_fits _ (string_fits 0) _,
      Field.nullable_fits _ (string_fits 0), Field.nullable_fits _ (string_fits 0), trivial⟩

end RequesterGroup

namespace GroupMember

theorem emailField_faithful : emailField.Faithful :=
  ⟨(Field.nullable_faithful "email" string_faithful string_neverNull).shown,
    (Field.nullable_faithful "email" string_faithful string_neverNull).missing⟩

theorem fields_faithful : fields.Faithful :=
  ⟨Field.required_faithful _ word64_faithful, by decide,
    Field.nullable_faithful _ string_faithful string_neverNull, by decide,
    Field.nullable_faithful _ string_faithful string_neverNull, by decide,
    emailField_faithful, by decide, trivial⟩

theorem codec_faithful : codec.Faithful := record_faithful fields_faithful fun _ => rfl

theorem codec_fits : codec.Fits 1 :=
  record_fits (by decide)
    ⟨Field.required_fits _ (word64_fits 0), Field.nullable_fits _ (string_fits 0),
      Field.nullable_fits _ (string_fits 0), Field.nullable_fits "email" (string_fits 0), trivial⟩

end GroupMember

end IdentitySync.Desk
