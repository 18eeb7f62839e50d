import IdentitySync.Desk.Catalog
import IdentitySync.Proofs.Desk.OwnKind
import IdentitySync.Proofs.Json.Stable

/-!
Records are read leniently and written plainly, and what was read once is read again from what is
written of it. Custom fields and choices that cannot be read are left out on the first reading; what
stays is such that none of it is left out on a second. So the lists that changes of access write
back mean the entries that were read.
-/
namespace IdentitySync

theorem Json.canonicalItems_of_forall {items : List Json} (h : ∀ j ∈ items, j.Canonical) :
    CanonicalItems items := by
  induction items with
  | nil => trivial
  | cons j rest ih =>
    exact ⟨h j List.mem_cons_self, ih fun j hj => h j (List.mem_cons_of_mem _ hj)⟩

theorem Json.strings_canonical (xs : List String) : (Json.strings xs).Canonical := by
  refine canonicalItems_of_forall fun j hj => ?_
  obtain ⟨x, _, rfl⟩ := List.mem_map.mp hj
  trivial

namespace Desk
open Http Exchange Codec

variable {α β ρ σ : Type}

theorem filterMap_written {encode : α → β} {read : β → Option α} {xs : List α}
    (back : ∀ x ∈ xs, read (encode x) = some x) : (xs.map encode).filterMap read = xs := by
  induction xs with
  | nil => rfl
  | cons x xs ih =>
    rw [List.map_cons, List.filterMap_cons_some (back x List.mem_cons_self),
      ih fun y hy => back y (List.mem_cons_of_mem _ hy)]

theorem lenient_decode {encode : α → Json} {read : Json → α} {src : Source} {d : Document} {a : α}
    (decoded : (lenientCodec encode read).decode src d = .ok a) : ∃ j, a = read j := by
  simp only [lenientCodec, Document.decodeValue] at decoded
  split at decoded
  · rename_i v _
    cases decoded
    exact ⟨v.json, rfl⟩
  · cases decoded

namespace CatalogField

theorem choices_nonempty {j : Json} {pair : List String} (hp : pair ∈ choicesOf j) :
    pair ≠ [] := by
  obtain ⟨item, _, read⟩ := List.mem_filterMap.mp hp
  cases item with
  | list scalars =>
    simp only at read
    split at read
    · cases read
    · rename_i some
      cases read
      exact fun none => some (List.isEmpty_iff.mpr none)
  | _ => cases read

theorem scalars_strings (pair : List String) :
    (pair.map Json.string).filterMap scalarText? = pair :=
  filterMap_written fun _ _ => rfl

theorem choicesOf_strings {xs : List (List String)} (some : ∀ pair ∈ xs, pair ≠ []) :
    choicesOf (.list (xs.map .strings)) = xs := by
  refine filterMap_written fun pair hp => ?_
  have filled : pair.isEmpty = false := List.isEmpty_eq_false_iff.mpr (some pair hp)
  simp only [Json.strings, scalars_strings, filled, Bool.false_eq_true, ↓reduceIte]

theorem choices_readsBack {xs : List (List String)} (some : ∀ pair ∈ xs, pair ≠ []) :
    choicesCodec.ReadsBack xs := by
  intro src d shown
  have canonical : (Json.list (xs.map .strings)).Canonical := by
    refine Json.canonicalItems_of_forall fun j hj => ?_
    obtain ⟨pair, _, rfl⟩ := List.mem_map.mp hj
    exact Json.strings_canonical pair
  obtain ⟨v, value, same⟩ := Json.value_of_shown _ d canonical shown
  simp only [choicesCodec, lenientCodec, Document.decodeValue, value, Except.map, same,
    choicesOf_strings some]

theorem choicesCodec_stable : choicesCodec.Stable := by
  intro src d xs decoded
  obtain ⟨j, rfl⟩ := lenient_decode decoded
  exact choices_readsBack fun pair => choices_nonempty

theorem fields_stable : fields.Stable :=
  ⟨(Field.required_faithful _ string_faithful).stable, by decide,
    (Field.defaulted_faithful _ string_faithful _).stable, by decide,
    (Field.defaulted_faithful _ string_faithful _).stable, by decide,
    (Field.defaulted_faithful _ bool_faithful _).stable, by decide,
    Field.defaulted_stable _ choicesCodec_stable (choices_readsBack nofun), by decide,
    (Field.defaulted_faithful _ bool_faithful _).stable, by decide, trivial⟩

theorem codec_stable : codec.Stable := record_stable fields_stable (fun _ => rfl) fun _ => rfl

theorem choicesCodec_fits (h : Nat) : choicesCodec.Fits (h + 2) := by
  intro xs
  exact list_fits (list_fits (string_fits h)) xs

theorem codec_fits (h : Nat) : codec.Fits (h + 3) :=
  record_fits (by decide)
    ⟨Field.required_fits _ (string_fits _), Field.defaulted_fits _ (string_fits _) _,
      Field.defaulted_fits _ (string_fits _) _, Field.defaulted_fits _ (bool_fits _) _,
      Field.defaulted_fits _ (choicesCodec_fits h) _, Field.defaulted_fits _ (bool_fits _) _,
      trivial⟩

theorem readAll_shown {fs : List CatalogField} (back : ∀ f ∈ fs, codec.ReadsBack f)
    {items : List Json}
    (shown : Json.ItemsShownBy (fs.map codec.encode) (items.map Json.document)) :
    readAll (.list items) = fs := by
  induction fs generalizing items with
  | nil =>
    rw [List.map_eq_nil_iff.mp shown]
    rfl
  | cons f fs ih =>
    obtain ⟨d, tail, same, first, rest⟩ := shown
    obtain ⟨item, others, rfl, rfl, rfl⟩ := List.map_eq_cons_iff.mp same
    have own : (codec.decode .value item.document).toOption = some f := by
      rw [back f List.mem_cons_self .value _ first]
      rfl
    have remaining := ih (fun g hg => back g (List.mem_cons_of_mem _ hg)) rest
    simp only [readAll, itemsOf, List.filterMap_cons, own]
    exact congrArg (List.cons f) remaining

theorem listCodec_fits (h : Nat) : listCodec.Fits (h + 4) := fun fs => list_fits (codec_fits h) fs

theorem listCodec_readsBack {fs : List CatalogField} (back : ∀ f ∈ fs, codec.ReadsBack f) :
    listCodec.ReadsBack fs := by
  intro src d shown
  obtain ⟨v, value, shown'⟩ := Json.value_shows _ d (listCodec_fits 0 fs).distinct shown
  obtain ⟨ds, same, items⟩ := shown'
  have read : readAll v.json = fs := by
    cases json : v.json with
    | list own =>
      rw [json] at same
      cases same
      rw [Json.documents_eq_map] at items
      exact readAll_shown back items
    | _ =>
      rw [json] at same
      cases same
  simp only [listCodec, lenientCodec, Document.decodeValue, value, Except.map, read]

theorem readAll_readsBack {j : Json} {f : CatalogField} (hf : f ∈ readAll j) :
    codec.ReadsBack f := by
  obtain ⟨item, _, read⟩ := List.mem_filterMap.mp hf
  cases decoded : codec.decode .value item.document with
  | error e =>
    rw [decoded] at read
    cases read
  | ok g =>
    rw [decoded] at read
    cases read
    exact codec_stable .value _ f decoded

theorem listCodec_stable : listCodec.Stable := by
  intro src d fs decoded
  obtain ⟨j, rfl⟩ := lenient_decode decoded
  exact listCodec_readsBack fun f => readAll_readsBack

end CatalogField

namespace CatalogItem

theorem fields_stable : fields.Stable :=
  ⟨(Field.required_faithful _ word64_faithful).stable, by decide,
    (Field.defaulted_faithful _ string_faithful _).stable, by decide,
    (Field.required_faithful _ word64_faithful).stable, by decide,
    Field.defaulted_stable _ CatalogField.listCodec_stable
      (CatalogField.listCodec_readsBack nofun), by decide,
    (Field.nullable_faithful _ word64_faithful word64_neverNull).stable, by decide,
    (Field.defaulted_faithful _ bool_faithful _).stable, by decide,
    (Field.nullable_faithful _ word8_faithful word8_neverNull).stable, by decide, trivial⟩

theorem codec_stable : codec.Stable := record_stable fields_stable (fun _ => rfl) fun _ => rfl

theorem codec_fits : codec.Fits 5 :=
  record_fits (by decide)
    ⟨Field.required_fits _ (word64_fits 4), Field.defaulted_fits _ (string_fits 4) _,
      Field.required_fits _ (word64_fits 4),
      Field.defaulted_fits _ (CatalogField.listCodec_fits 0) _,
      Field.nullable_fits _ (word64_fits 4), Field.defaulted_fits _ (bool_fits 4) _,
      Field.nullable_fits _ (word8_fits 4), trivial⟩

end CatalogItem

namespace DeskTicket

theorem fields_faithful : fields.Faithful :=
  ⟨Field.required_faithful _ word64_faithful, by decide,
    Field.nullable_faithful _ string_faithful string_neverNull, by decide,
    Field.nullable_faithful _ string_faithful string_neverNull, by decide,
    Field.nullable_faithful _ string_faithful string_neverNull, by decide,
    Field.nullable_faithful _ word32_faithful word32_neverNull, by decide,
    Field.defaulted_faithful "tags"
      (orDefault_faithful (list_faithful string_faithful) (list_neverNull _) []) [], by decide,
    Field.nullable_faithful _ timestamp_faithful timestamp_neverNull, by decide,
    Field.nullable_faithful _ timestamp_faithful timestamp_neverNull, by decide, trivial⟩

theorem codec_faithful : codec.Faithful := record_faithful fields_faithful fun _ => rfl

theorem codec_fits : codec.Fits 2 :=
  record_fits (by decide)
    ⟨Field.required_fits _ (word64_fits 1), Field.nullable_fits _ (string_fits 1),
      Field.nullable_fits _ (string_fits 1), Field.nullable_fits _ (string_fits 1),
      Field.nullable_fits _ (word32_fits 1),
      Field.defaulted_fits _ (orDefault_fits (list_fits (string_fits 0)) _) _,
      Field.nullable_fits _ (timestamp_fits 1), Field.nullable_fits _ (timestamp_fits 1), trivial⟩

end DeskTicket

/-- The list that a write puts in place of another means, to who decodes the body, the entries that
    were read from the record, edited. -/
def Roster.PutsBack (r : Roster α ρ) (k : Change) (log : CallLog) (q : Request) : Prop :=
  ∃ answer record body, (r.get, .ok answer) ∈ log ∧
    decodeBody r.codec r.envelope answer = .ok record ∧ q = r.put body ∧
    r.listed? body = some (r.edit (r.entries record) k)

theorem Roster.Rewrites.putsBack {r : Roster α ρ} {k : Change} {reads log : CallLog} {q : Request}
    (rewrites : r.Rewrites k reads q) (before : reads <+: log) : r.PutsBack k log q := by
  obtain ⟨answer, record, rfl, read, rfl, _⟩ := rewrites
  exact ⟨answer, record, _, before.subset List.mem_cons_self, read, rfl, r.listed?_body _⟩

/-- Whatever was decoded of a record of the service desk is decoded again from what it is encoded
    to, as a value and as a text. Members and roles that a change of access writes back mean the
    entries that were read, edited. -/
theorem decoded_records_settle :
    Agent.codec.Settles ∧ AgentContact.codec.Settles ∧ AgentRole.codec.Settles ∧
    AgentGroup.codec.Settles ∧ Requester.codec.Settles ∧ RequesterGroup.codec.Settles ∧
    GroupMember.codec.Settles ∧ Role.codec.Settles ∧ CatalogItem.codec.Settles ∧
    CatalogField.codec.Settles ∧ DeskTicket.codec.Settles ∧
    ∀ (σ : Type) (c : Client) (server : σ → Request → Answer × σ) (s : σ) (call : AccessCall),
      (∀ x ∈ (call.op .agentGroups c).log server s, x.1.isWrite = true →
        ∃ group member, call.Numbered group member ∧ (groupRoster group).PutsBack
          (call.change member) ((call.op .agentGroups c).log server s) x.1) ∧
      ∀ x ∈ (call.op .roles c).log server s, x.1.isWrite = true →
        ∃ role agent, call.Numbered role agent ∧ (roleRoster agent).PutsBack
          (call.change role) ((call.op .roles c).log server s) x.1 := by
  refine ⟨Agent.codec_faithful.stable.settles Agent.codec_fits (by decide),
    AgentContact.codec_faithful.stable.settles (AgentContact.codec_fits 0) (by decide),
    AgentRole.codec_faithful.stable.settles AgentRole.codec_fits (by decide),
    AgentGroup.codec_faithful.stable.settles AgentGroup.codec_fits (by decide),
    Requester.codec_faithful.stable.settles Requester.codec_fits (by decide),
    RequesterGroup.codec_faithful.stable.settles RequesterGroup.codec_fits (by decide),
    GroupMember.codec_faithful.stable.settles GroupMember.codec_fits (by decide),
    Role.codec_faithful.stable.settles Role.codec_fits (by decide),
    CatalogItem.codec_stable.settles CatalogItem.codec_fits (by decide),
    CatalogField.codec_stable.settles (CatalogField.codec_fits 0) (by decide),
    DeskTicket.codec_faithful.stable.settles DeskTicket.codec_fits (by decide),
    fun σ c server s call => ⟨fun x hx write => ?_, fun x hx write => ?_⟩⟩
  · obtain ⟨_, group, member, numbered, reads, before, written⟩ :=
      AccessKind.agentGroup.op_writes call (ends_of_run server _ s) hx write
    exact ⟨group, member, numbered, Roster.Rewrites.putsBack written.edits before⟩
  · obtain ⟨_, role, agent, numbered, reads, before, written⟩ :=
      AccessKind.role.op_writes call (ends_of_run server _ s) hx write
    exact ⟨role, agent, numbered, Roster.Rewrites.putsBack written.edits before⟩

def untidyItem : Json :=
  .list [.natural 7, .string "Desk", .natural 17,
    .list [.record [("name", .string "floor"),
        ("choices", .list [.list [.natural 1, .null], .list [.bool true], .list []])],
      .string "Desk"]]

def tidiedItem : CatalogItem :=
  ⟨7, "Desk", 17, [⟨"floor", "", "", false, [["1"], ["true"]], false⟩], none, false, none⟩

theorem untidy_item_settles :
    CatalogItem.codec.decode .value untidyItem.document = .ok tidiedItem ∧
    (∃ v, CatalogItem.codec.toValue? tidiedItem = some v ∧
      CatalogItem.codec.ofValue v = .ok tidiedItem) ∧
    CatalogItem.codec.read (CatalogItem.codec.encode tidiedItem).text = .ok tidiedItem ∧
    let call := AccessCall.grant (agentPrincipal 12) (roleEntitlement opsRole)
    let log := (call.op .roles acme).log (constantServer bareAgent) ()
    ∃ x ∈ log, x.1.isWrite = true ∧ ∃ role agent, call.Numbered role agent ∧
      (roleRoster agent).PutsBack (call.change role) log x.1 := by
  obtain ⟨_, _, _, _, _, _, _, _, settles, _, _, writes⟩ := decoded_records_settle
  have decoded : CatalogItem.codec.decode .value untidyItem.document = .ok tidiedItem := by
    decide +kernel
  obtain ⟨ofValue, ofText⟩ := settles .value _ tidiedItem decoded
  refine ⟨decoded, ofValue, ofText, ?_⟩
  intro call log
  have sent : log.any (fun x => x.1.isWrite) = true := by decide +kernel
  obtain ⟨x, hx, write⟩ := List.any_eq_true.mp sent
  exact ⟨x, hx, write, (writes Unit acme (constantServer bareAgent) () call).2 x hx write⟩

end Desk
end IdentitySync
