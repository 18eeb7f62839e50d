import IdentitySync.Proofs.Desk.PlacedFields

/-!
What the creation of a ticket looks at. The check of a ticket against its schema reports, of the
declared fields with something wrong, the one with the least id, and a ticket that passed it passes
it again when the schema asks for less. Of a ticket's own values only those of declared fields reach
the check and the requests, so two tickets that share these, and what is said beside them, are
created alike.
-/
namespace IdentitySync.Desk.Ticketing
open Http Exchange

variable {t t' : Ticket} {s : TicketSchema}

theorem checkTicket_eq_ok_iff : checkTicket t s = .ok () ↔ s.Accepts t := by
  rw [← TicketSchema.fault?_eq_none_iff, checkTicket]
  cases s.fault? t with
  | none => exact iff_of_true rfl rfl
  | some fault =>
    constructor
    · intro passed
      cases passed
    · intro sound
      cases sound

theorem checkTicket_eq_error_iff {f : Failure} :
    checkTicket t s = .error f ↔
      ∃ id fault, s.Blames t id fault ∧ fault.Names id ∧ f = .invalidData fault.message := by
  constructor
  · intro refused
    cases found : s.fault? t with
    | none =>
      rw [checkTicket, found] at refused
      cases refused
    | some fault =>
      rw [checkTicket, found] at refused
      cases refused
      obtain ⟨id, blames⟩ := TicketSchema.fault?_eq_some_iff.mp found
      obtain ⟨field, _, faulty⟩ := blames.faulty
      exact ⟨id, fault, blames, faulty.names, rfl⟩
  · rintro ⟨id, fault, blames, _, same⟩
    rw [checkTicket, TicketSchema.fault?_eq_some_iff.mpr ⟨id, blames⟩, same]

theorem checkTicket_eq_of_agreesOn (agrees : t.AgreesOn s t') :
    checkTicket t' s = checkTicket t s := by
  rw [checkTicket, checkTicket, TicketSchema.fault?_eq_of_agreesOn agrees]

/-- A ticket passes the check exactly when each declared field takes what the ticket has for it.
    Else the failure is about the least id of a declared field that does not. What passed still
    passes when fields are taken out of the schema, become optional or get more to pick from, and
    whatever the values of other fields are. -/
theorem tickets_follow_declared_fields (s : TicketSchema) (t : Ticket) :
    (checkTicket t s = .ok () ↔ ∀ id field, s.customFields.get? id = some field →
      field.Takes (t.customFields.get? id)) ∧
    (∀ f, checkTicket t s = .error f ↔
      ∃ id fault, s.Blames t id fault ∧ fault.Names id ∧ f = .invalidData fault.message) ∧
    (∀ s', s.RelaxesTo s' → checkTicket t s = .ok () → checkTicket t s' = .ok ()) ∧
    ∀ t', t.AgreesOn s t' → checkTicket t' s = checkTicket t s := by
  refine ⟨checkTicket_eq_ok_iff, fun f => checkTicket_eq_error_iff, ?_, ?_⟩
  · intro s' relaxed passed
    rw [checkTicket_eq_ok_iff] at passed ⊢
    exact passed.relaxed relaxed
  · intro t' agrees
    exact checkTicket_eq_of_agreesOn agrees

def accessForm (apps : List String) (asksWhy : Bool) : TicketSchema :=
  ⟨"12", "Access", .ofList [("apps", ⟨"apps", "Apps", none, false, .picks apps⟩),
    ("reason", ⟨"reason", "Reason", none, asksWhy, .text⟩)], []⟩

def accessWanted (apps : List String) : Ticket :=
  { laptopWanted with customFields := .ofList [("apps", .picks apps), ("reason", .text "audit")] }

theorem accessForm_field (apps : List String) (asksWhy : Bool) (id : String) :
    (accessForm apps asksWhy).customFields.get? id =
      if id = "reason" then some ⟨"reason", "Reason", none, asksWhy, .text⟩
      else if id = "apps" then some ⟨"apps", "Apps", none, false, .picks apps⟩ else none := by
  rw [accessForm, KeyedMap.get?_ofList]
  simp only [List.reverse_cons, List.reverse_nil, List.nil_append, List.cons_append,
    KeyedMap.lookup_cons, List.lookup_nil]

theorem wider_form_takes_what_was_taken :
    (accessForm ["vpn"] true).RelaxesTo (accessForm ["vpn", "crm"] false) ∧
    checkTicket (accessWanted ["vpn"]) (accessForm ["vpn"] true) = .ok () ∧
    checkTicket (accessWanted ["vpn"]) (accessForm ["vpn", "crm"] false) = .ok () ∧
    ∃ id fault, (accessForm ["vpn", "crm"] false).Blames (accessWanted ["vpn", "erp", "hr"]) id
        fault ∧
      fault.message = "value 'erp' is not allowed for field 'apps'" := by
  have relaxed : (accessForm ["vpn"] true).RelaxesTo (accessForm ["vpn", "crm"] false) := by
    intro id field' declared
    rw [accessForm_field] at declared ⊢
    by_cases reason : id = "reason"
    · rw [if_pos reason] at declared ⊢
      cases declared
      exact ⟨_, rfl, nofun, .same _⟩
    · rw [if_neg reason] at declared ⊢
      by_cases apps : id = "apps"
      · rw [if_pos apps] at declared ⊢
        cases declared
        exact ⟨_, rfl, nofun, .picks (List.cons_subset_cons _ (List.nil_subset _))⟩
      · rw [if_neg apps] at declared
        cases declared
  have passed : checkTicket (accessWanted ["vpn"]) (accessForm ["vpn"] true) = .ok () := by
    have sound : (accessForm ["vpn"] true).fault? (accessWanted ["vpn"]) = none := by decide +kernel
    rw [checkTicket, sound]
  have refused : checkTicket (accessWanted ["vpn", "erp", "hr"]) (accessForm ["vpn", "crm"] false) =
      .error (.invalidData "value 'erp' is not allowed for field 'apps'") := by
    have found : (accessForm ["vpn", "crm"] false).fault? (accessWanted ["vpn", "erp", "hr"]) =
        some (.notAllowed "erp" "apps") := by decide +kernel
    rw [checkTicket, found]
    rfl
  obtain ⟨_, _, relax, _⟩ := tickets_follow_declared_fields (accessForm ["vpn"] true)
    (accessWanted ["vpn"])
  obtain ⟨_, blame, _, _⟩ := tickets_follow_declared_fields (accessForm ["vpn", "crm"] false)
    (accessWanted ["vpn", "erp", "hr"])
  obtain ⟨id, fault, blames, _, same⟩ := (blame _).mp refused
  exact ⟨relaxed, passed, relax _ relaxed passed, id, fault, blames,
    (Failure.invalidData.inj same).symm⟩

/-- The tickets ask for the same under a schema. They may differ in what the desk gives to tickets,
    as their ids and times, and in values that the schema does not declare. -/
structure AsksAlike (s : TicketSchema) (t t' : Ticket) : Prop where
  displayName : t.displayName = t'.displayName
  description : t.description = t'.description
  labels : t.labels = t'.labels
  requestedFor : t.requestedFor = t'.requestedFor
  reporter : t.reporter = t'.reporter
  declared : t.AgreesOn s t'

theorem placedFields_eq_of_agreesOn (agrees : t.AgreesOn s t') :
    placedFields t s = placedFields t' s := by
  have kept : (t.customFields.filter fun id _ => s.customFields.contains id) =
      t'.customFields.filter fun id _ => s.customFields.contains id := by
    apply KeyedMap.eq_of_get?
    intro id
    rw [KeyedMap.get?_filter, KeyedMap.get?_filter]
    by_cases declared : s.customFields.contains id = true
    · rw [if_pos declared, if_pos declared, agrees id declared]
    · rw [if_neg declared, if_neg declared]
  rw [placedFields, placedFields, kept]

theorem AsksAlike.updateBody_eq (alike : AsksAlike s t t') : updateBody t = updateBody t' := by
  rw [updateBody, updateBody, alike.description, alike.displayName, alike.labels]

theorem AsksAlike.complete_eq (alike : AsksAlike s t t') (c : Client) (created : DeskTicket)
    (noted : Annotations) : complete c t created noted = complete c t' created noted := by
  rw [complete, complete, alike.updateBody_eq]

theorem AsksAlike.filedBy_eq (alike : AsksAlike s t t') (c : Client) :
    filedBy c t = filedBy c t' := by
  rw [filedBy, filedBy, alike.reporter]

theorem AsksAlike.create_eq (alike : AsksAlike s t t') (c : Client) :
    create c t s = create c t' s := by
  have check : checkTicket t s = checkTicket t' s :=
    (checkTicket_eq_of_agreesOn alike.declared).symm
  have named : requestedForLogin t = requestedForLogin t' := by
    rw [requestedForLogin, requestedForLogin, alike.requestedFor]
  have body : ∀ requestedFor email,
      placementBody requestedFor email t s = placementBody requestedFor email t' s := by
    intro requestedFor email
    rw [placementBody, placementBody, placedFields_eq_of_agreesOn alike.declared]
  unfold create
  simp only [check, named, body, alike.filedBy_eq, alike.complete_eq]

/-- Tickets that ask for the same are created by the same requests, body for body, and with the same
    result or failure, whatever else they have and whatever the desk answers. -/
theorem undeclared_values_go_unseen {σ : Type} (c : Client) (s : TicketSchema) (t t' : Ticket)
    (alike : AsksAlike s t t') (server : σ → Request → Answer × σ) (start : σ) :
    (create c t s).log server start = (create c t' s).log server start ∧
      (create c t s).run server start = (create c t' s).run server start := by
  rw [alike.create_eq c]
  exact ⟨rfl, rfl⟩

def laptopAgain : Ticket :=
  { laptopChosen with
    id := "88"
    status := some ⟨"5", "Closed"⟩
    url := some "https://elsewhere.example/88"
    customFields := .ofList [("color", .text "red"), ("os", .pick "linux"), ("salary", .text "9")] }

theorem laptop_declares {id : String}
    (declared : laptopItem.schema.customFields.contains id = true) : id = "os" := by
  obtain ⟨f, own, supported, named⟩ :=
    (laptopItem.field?_isSome_iff id).mp ((laptopItem.declares_iff id).mp declared)
  rcases List.mem_cons.mp own with rfl | own
  · exact absurd supported (by decide)
  · rcases List.mem_cons.mp own with rfl | own
    · exact named.symm
    · cases own

theorem other_color_goes_unseen :
    let call := create acme laptopChosen laptopItem.schema
    let again := create acme laptopAgain laptopItem.schema
    AsksAlike laptopItem.schema laptopChosen laptopAgain ∧
      (call.log stubbornServer ()).map (fun x => x.1.method) = [.post, .put] ∧
      again.log stubbornServer () = call.log stubbornServer () ∧
      again.run stubbornServer () = call.run stubbornServer () := by
  intro call again
  have alike : AsksAlike laptopItem.schema laptopChosen laptopAgain := by
    refine ⟨rfl, rfl, rfl, rfl, rfl, ?_⟩
    intro id declared
    rw [laptop_declares declared]
    decide +kernel
  have asked : (call.log stubbornServer ()).map (fun x => x.1.method) = [.post, .put] := by
    decide +kernel
  obtain ⟨requests, results⟩ := undeclared_values_go_unseen acme laptopItem.schema laptopChosen
    laptopAgain alike stubbornServer ()
  exact ⟨alike, asked, requests.symm, results.symm⟩

end IdentitySync.Desk.Ticketing
