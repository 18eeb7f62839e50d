import IdentitySync.Proofs.Desk.Addressing
import IdentitySync.Proofs.Desk.RetrySafety
import IdentitySync.Proofs.Desk.WriteDiscipline

/-!
Creating a ticket takes up to three requests: who the key belongs to, the request for the item, and
the update of the ticket that this made. Each is sent exactly when what it needs is known. Once the
request for the item has been answered with a ticket, nothing can happen that loses its number: the
creation ends with the updated ticket or with a failure that carries the one that was made.
-/
namespace IdentitySync.Desk
open Http Exchange

def Holds (codec : Codec α) (key : String) (answer : Answer) (a : α) : Prop :=
  ∃ r, answer = .ok r ∧ r.isSuccess = true ∧ decodeBody codec key r = .ok a

theorem Holds.unique {codec : Codec α} {key : String} {answer : Answer} {a a' : α}
    (h : Holds codec key answer a) (h' : Holds codec key answer a') : a = a' := by
  obtain ⟨r, rfl, _, held⟩ := h
  obtain ⟨_, same, _, held'⟩ := h'
  cases same
  rw [held] at held'
  exact Except.ok.inj held'

/-- Sends the one request that is due, or nothing when none is. -/
inductive Asks (due : Request → Prop) : CallLog → Prop where
  | once {q : Request} (h : due q) (answer : Answer) : Asks due [(q, answer)]
  | never (h : ∀ q, ¬due q) : Asks due []

theorem Asks.due {P : Request → Prop} {log : CallLog} (asks : Asks P log) :
    ∀ x ∈ log, P x.1 := by
  intro x hx
  cases asks with
  | once h answer =>
    rw [List.mem_singleton] at hx
    rw [hx]
    exact h
  | never h => cases hx

section
variable {c : Client} {codec : Codec α} {key : String} {q : Request} {log : CallLog}

end

theorem principalLogin_leavesNone {r : Resource} {f : Failure}
    (failed : principalLogin r = .error f) : TicketOutcome.ticketOf f = none := by
  rw [principalLogin] at failed
  split at failed
  · cases failed
    rfl
  · simp only at failed
    split at failed
    · cases failed
    · cases failed
      rfl

namespace Ticketing

theorem requestedForLogin_leavesNone {t : Ticket} {f : Failure}
    (failed : requestedForLogin t = .error f) : TicketOutcome.ticketOf f = none := by
  rw [requestedForLogin] at failed
  split at failed
  · cases failed
  · rename_i principal _
    cases login : principalLogin principal with
    | error e =>
      rw [login] at failed
      cases failed
      exact principalLogin_leavesNone login
    | ok name =>
      rw [login] at failed
      cases failed

def ownAgentGet : Request := ⟨.get, .ownAgent, [], none⟩

def itemPost (displayId : UInt64) (body : Json) : Request :=
  ⟨.post, .placement displayId, [], some body⟩

def ticketPut (id : UInt64) (t : Ticket) : Request := ⟨.put, .ticket id, [], some (updateBody t)⟩

structure Ready (t : Ticket) (s : TicketSchema) (displayId : UInt64)
    (requestedFor : Option String) : Prop where
  fits : s.fault? t = none
  numbered : Text.readWord64? s.id = some displayId
  named : requestedForLogin t = .ok requestedFor

/-- The address that the ticket is filed by is its reporter's login, else that of the agent whom the
    key belongs to, as far as it was asked for and answered. -/
inductive FiledBy (t : Ticket) (looked : CallLog) (email : String) : Prop where
  | reporter {r : Resource} (reported : t.reporter = some r) (login : principalLogin r = .ok email)
  | ownAgent {answer : Answer} {agent : Agent} (unreported : t.reporter = none)
      (asked : looked = [(ownAgentGet, answer)]) (held : Holds Agent.codec "agent" answer agent)
      (address : agent.emailAddress = some email)

def LooksUp (t : Ticket) (s : TicketSchema) (q : Request) : Prop :=
  (∃ displayId requestedFor, Ready t s displayId requestedFor) ∧ t.reporter = none ∧ q = ownAgentGet

def Places (t : Ticket) (s : TicketSchema) (looked : CallLog) (q : Request) : Prop :=
  ∃ displayId requestedFor email, Ready t s displayId requestedFor ∧ FiledBy t looked email ∧
    q = itemPost displayId (placementBody requestedFor email t s)

def Updates (t : Ticket) (placed : CallLog) (q : Request) : Prop :=
  ∃ x ∈ placed, ∃ created : DeskTicket, Holds DeskTicket.codec "service_request" x.2 created ∧
    q = ticketPut created.id t

def Updated (answer : Answer) (final : DeskTicket) : Prop :=
  Holds DeskTicket.codec "ticket" answer final

/-- What the creation of a ticket sends in its three stages, and how it ends. -/
structure Course (c : Client) (t : Ticket) (s : TicketSchema) (looked placed updated : CallLog)
    (o : Outcome Failure (Ticket × Annotations)) : Prop where
  looks : Asks (LooksUp t s) looked
  places : Asks (Places t s looked) placed
  updates : Asks (Updates t placed) updated
  ends : o ≠ .crash
  completed : (∃ result, o = .done result) ↔ ∃ x ∈ updated, ∃ final, Updated x.2 final
  given : ∀ ticket notes, o = .done (ticket, notes) →
    ∃ x ∈ updated, ∃ final, Updated x.2 final ∧ ticket = final.ticket c.subdomain
  incomplete : (∃ ticket message, o = .fail (.ticketIncomplete ticket message)) ↔
    ∃ x ∈ updated, ∀ final, ¬Updated x.2 final
  carried : ∀ ticket message, o = .fail (.ticketIncomplete ticket message) →
    ∃ x ∈ placed, ∃ created : DeskTicket, Holds DeskTicket.codec "service_request" x.2 created ∧
      ticket = created.ticket c.subdomain ∧ ticket.id = toString created.id
  otherwise : ∀ f, o = .fail f → TicketOutcome.ticketOf f = none → updated = []

variable {c : Client} {t : Ticket} {s : TicketSchema} {displayId : UInt64}
  {requestedFor : Option String} {looked placed updated log : CallLog}

theorem Course.stopped {f : Failure} (looks : Asks (LooksUp t s) looked)
    (places : Asks (Places t s looked) placed) (unheld : ∀ q, ¬Updates t placed q)
    (leaves : TicketOutcome.ticketOf f = none) : Course c t s looked placed [] (.fail f) where
  looks := looks
  places := places
  updates := .never unheld
  ends := nofun
  completed := by
    refine ⟨?_, fun ⟨_, unsent, _⟩ => absurd unsent List.not_mem_nil⟩
    rintro ⟨result, same⟩
    cases same
  given := fun _ _ same => by cases same
  incomplete := by
    refine ⟨?_, fun ⟨_, unsent, _⟩ => absurd unsent List.not_mem_nil⟩
    rintro ⟨ticket, message, same⟩
    cases same
    cases leaves
  carried := by
    intro ticket message same
    cases same
    cases leaves
  otherwise := fun _ _ _ => rfl

def prepared (t : Ticket) (s : TicketSchema) : Except Failure (UInt64 × Option String) := do
  checkTicket t s
  let displayId ← numericId s.id
  let requestedFor ← requestedForLogin t
  .ok (displayId, requestedFor)

def placing (c : Client) (t : Ticket) (s : TicketSchema) (ready : UInt64 × Option String)
    (filed : String × Annotations) : Op (Ticket × Annotations) :=
  (c.placeRequest ready.1 (placementBody ready.2 filed.1 t s)).op >>= fun created =>
    complete c t created.data (filed.2.withRateLimit created.rateLimit)

theorem create_eq (c : Client) (t : Ticket) (s : TicketSchema) :
    create c t s =
      ofExcept (prepared t s) >>= fun ready => filedBy c t >>= placing c t s ready := by
  rw [create, prepared]
  cases checkTicket t s with
  | error f => rfl
  | ok _ =>
    cases numericId s.id with
    | error f => rfl
    | ok displayId =>
      cases requestedForLogin t with
      | error f => rfl
      | ok requestedFor => rfl

theorem prepared_cases (t : Ticket) (s : TicketSchema) :
    (∃ displayId requestedFor, Ready t s displayId requestedFor ∧
      prepared t s = .ok (displayId, requestedFor)) ∨
    (∀ displayId requestedFor, ¬Ready t s displayId requestedFor) ∧
      ∃ f, prepared t s = .error f ∧ TicketOutcome.ticketOf f = none := by
  cases fits : s.fault? t with
  | some fault =>
    refine .inr ⟨fun _ _ ready => ?_, .invalidData fault.message, ?_, rfl⟩
    · rw [ready.fits] at fits
      cases fits
    · rw [prepared, checkTicket, fits]
      rfl
  | none =>
    have checked : checkTicket t s = .ok () := by rw [checkTicket, fits]
    cases numbered : Text.readWord64? s.id with
    | none =>
      refine .inr ⟨fun _ _ ready => ?_, (Fault.badId s.id).failure, ?_, rfl⟩
      · rw [ready.numbered] at numbered
        cases numbered
      · rw [prepared, checked, numericId, numbered]
        rfl
    | some displayId =>
      have number : numericId s.id = .ok displayId := by rw [numericId, numbered]
      cases named : requestedForLogin t with
      | error f =>
        refine .inr ⟨fun _ _ ready => ?_, f, ?_, requestedForLogin_leavesNone named⟩
        · rw [ready.named] at named
          cases named
        · rw [prepared, checked, number, named]
          rfl
      | ok requestedFor =>
        refine .inl ⟨displayId, requestedFor, ⟨fits, numbered, named⟩, ?_⟩
        rw [prepared, checked, number, named]
        rfl

theorem create_cases (c : Client) (t : Ticket) (s : TicketSchema) :
    (∃ displayId requestedFor, Ready t s displayId requestedFor ∧
      create c t s = filedBy c t >>= placing c t s (displayId, requestedFor)) ∨
    (∀ displayId requestedFor, ¬Ready t s displayId requestedFor) ∧
      ∃ f, create c t s = .fail f ∧ TicketOutcome.ticketOf f = none := by
  rcases prepared_cases t s with ⟨displayId, requestedFor, ready, known⟩ |
    ⟨unready, f, refused, leaves⟩
  · refine .inl ⟨displayId, requestedFor, ready, ?_⟩
    rw [create_eq, known]
    rfl
  · refine .inr ⟨unready, f, ?_, leaves⟩
    rw [create_eq, refused]
    rfl

theorem filedBy_reported {r : Resource} (reported : t.reporter = some r) :
    filedBy c t = .ofExcept ((principalLogin r).map fun login => (login, [])) := by
  rw [filedBy, reported]

def ownAddress (reply : Reply Agent) : Op (String × Annotations) :=
  match reply.data.emailAddress with
  | some email => .done (email, Annotations.withRateLimit [] reply.rateLimit)
  | none => .fail (.invalidData "the API key's agent has no email address")

theorem filedBy_unreported (unreported : t.reporter = none) :
    filedBy c t = c.ownAgent.op >>= ownAddress := by
  rw [filedBy, unreported]
  rfl

/-- Takes placements as ticket 901 and refuses updates. -/
def stubbornServer : Unit → Request → Answer × Unit := fun _ q =>
  let answer : Response := match q.method with
    | .get =>
      ⟨200, [], .ok "\x7b\"agent\":\x7b\"id\":31,\"email\":\"ann@acme.org\"\x7d\x7d",
        midnight⟩
    | .post => ⟨201, [], .ok "\x7b\"service_request\":\x7b\"id\":901\x7d\x7d", midnight⟩
    | _ => ⟨500, [], .ok "", midnight⟩
  (.ok answer, ())

def unreported : Ticket := { laptopWanted with reporter := none }

def leftBehind : Outcome Failure α → Option String
  | .fail f => (TicketOutcome.ticketOf f).map Ticket.id
  | _ => none

end Ticketing

end IdentitySync.Desk
