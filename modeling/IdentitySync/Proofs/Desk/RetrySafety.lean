import IdentitySync.Proofs.Desk.AccessCall
import IdentitySync.Proofs.Desk.CallLog

/-!
Failures that may go away when an operation is tried again. None of them follows a write that the
service desk accepted, so trying again writes nothing twice: a write whose answer cannot be read
fails for good, and so does a ticket that was placed and then not updated.
-/
namespace IdentitySync.Desk
open Http Exchange

/-- Everything that the connector can be asked to do. -/
inductive Operation where
  | list (s : Syncer) (token : PageToken)
  | entitlements (s : Syncer) (r : Resource)
  | grants (s : Syncer) (r : Resource) (token : PageToken)
  | grant (s : Syncer) (principal : ResourceId) (e : Entitlement)
  | revoke (s : Syncer) (g : Grant)
  | validate
  | listSchemas (token : PageToken)
  | schema (id : String)
  | ticket (id : String)
  | tickets (ids : List String)
  | create (t : Ticket) (s : TicketSchema)
  | createAll (requests : List (Ticket × TicketSchema))

namespace Operation

def Result : Operation → Type
  | list _ _ => SyncPage Resource
  | entitlements _ _ => SyncPage Entitlement
  | grants _ _ _ => SyncPage Grant
  | grant _ _ _ => Annotations
  | revoke _ _ => Annotations
  | validate => Annotations
  | listSchemas _ => SyncPage TicketSchema
  | schema _ => TicketSchema × Annotations
  | ticket _ => Ticket × Annotations
  | tickets _ => List TicketOutcome
  | create _ _ => Ticket × Annotations
  | createAll _ => List TicketOutcome

def op (c : Connector) : (k : Operation) → Op k.Result
  | list s token => s.list c.client token
  | entitlements s r => .done (s.entitlements r)
  | grants s r token => s.grants c.client r token
  | grant s principal e => s.grant c.client principal e
  | revoke s g => s.revoke c.client g
  | validate => c.validate
  | listSchemas token => Ticketing.listSchemas c.client token
  | schema id => Ticketing.schema c.client id
  | ticket id => Ticketing.ticket c.client id
  | tickets ids => Ticketing.tickets c.client ids
  | create t s => Ticketing.create c.client t s
  | createAll requests => Ticketing.createAll c.client requests

end Operation

def Accepted (x : Request × Answer) : Prop :=
  x.1.isWrite = true ∧ ∃ r, x.2 = .ok r ∧ r.isSuccess = true

/-- The bodies of all answers of success came in full. -/
def CameWhole (log : CallLog) : Prop :=
  ∀ x ∈ log, ∀ r, x.2 = .ok r → r.isSuccess = true → r.body.isOk = true

/-- Whatever is answered, a transient failure follows no accepted write. -/
def RetrySafe (op : Op β) : Prop :=
  ∀ log f, Ends op log (.fail f) → f.isTransient = true → CameWhole log → ∀ x ∈ log, ¬Accepted x

def FailsForGood (op : Op β) : Prop := ∀ log f, Ends op log (.fail f) → f.isTransient = false

variable {c : Client}

theorem not_accepted_of_isGet {x : Request × Answer} (get : x.1.IsGet) : ¬Accepted x := by
  rintro ⟨write, _⟩
  rw [Request.isWrite, get] at write
  cases write

theorem retrySafe_of_reading {op : Op β} (only : op.AsksOnly Request.IsGet) : RetrySafe op := by
  intro log f ends _ _ x hx
  exact not_accepted_of_isGet (only.log_all ends x hx)

theorem retrySafe_bind {p : Op α} {next : α → Op β} (only : p.AsksOnly Request.IsGet)
    (safe : ∀ a, RetrySafe (next a)) : RetrySafe (p >>= next) := by
  intro log f ends transient whole x hx
  rcases Ends.of_bind ends with ⟨before, a, after, rfl, first, second⟩ | ⟨e, first, _⟩ | ⟨_, crash⟩
  · rcases List.mem_append.mp hx with hx | hx
    · exact not_accepted_of_isGet (only.log_all first x hx)
    · exact safe a after f second transient (fun y hy => whole y (List.mem_append_right _ hy)) x hx
  · exact not_accepted_of_isGet (only.log_all first x hx)
  · cases crash

theorem retrySafe_bind_last {p : Op α} {next : α → Op β} (safe : RetrySafe p)
    (last : ∀ a, FailsForGood (next a)) : RetrySafe (p >>= next) := by
  intro log f ends transient whole
  rcases Ends.of_bind ends with ⟨before, a, after, rfl, first, second⟩ | ⟨e, first, same⟩ |
    ⟨_, crash⟩
  · rw [last a after f second] at transient
    cases transient
  · cases same
    exact safe log f first transient whole
  · cases crash

theorem failsForGood_done (a : β) : FailsForGood (.done a : Op β) := by
  intro log f ends
  cases ends

/-- One request is safe when the only faults in reading an answer of success are for good. -/
theorem retrySafe_asking {q : Request} {read : Response → Except Fault γ}
    {make : Response → Option RateLimit → γ → α}
    (forGood : ∀ r e, r.body.isOk = true → read r = .error e → e.failure.isTransient = false) :
    RetrySafe (c.asking q read make).op := by
  intro log f ends transient whole x hx
  rintro ⟨_, r', same, accepted⟩
  cases Client.asking_op_ends ends with
  | unsent => cases hx
  | lost f =>
    rw [List.mem_singleton] at hx
    subst hx
    cases same
  | refused refusal =>
    rw [List.mem_singleton] at hx
    subst hx
    cases same
    rw [refusal] at accepted
    cases accepted
  | unreadable success bad =>
    have came := whole _ List.mem_cons_self _ rfl success
    rw [forGood _ _ came bad] at transient
    cases transient

theorem decodeBody_failure {codec : Codec α} {key : String} {r : Response} {e : Fault}
    (came : r.body.isOk = true) (bad : decodeBody codec key r = .error e) :
    e.failure.isTransient = false := by
  rcases decodeBody_error bad with ⟨f, broken, _⟩ | ⟨detail, rfl⟩
  · rw [broken] at came
    cases came
  · rfl

theorem retrySafe_reply (codec : Codec α) (key : String) (q : Request) :
    RetrySafe (c.reply codec key q).op := by
  rw [Client.reply_eq]
  exact retrySafe_asking fun r e came bad => decodeBody_failure came bad

theorem retrySafe_acknowledge (q : Request) : RetrySafe (c.acknowledge q).op := by
  rw [Client.acknowledge_eq]
  exact retrySafe_asking fun r e came bad => by cases bad

theorem retrySafe_admitted (call : AccessCall) (expected action : String)
    {rest : UInt64 → UInt64 → Op β} (safe : ∀ m n, RetrySafe (rest m n)) :
    RetrySafe (call.admitted expected action rest) := by
  rw [AccessCall.admitted]
  refine retrySafe_bind (requirePrincipal_asksOnly _ _ expected action) fun _ => ?_
  refine retrySafe_bind (recordIdOp_asksOnly _ call.entitlement.resource.id) fun m => ?_
  exact retrySafe_bind (recordIdOp_asksOnly _ call.principal) fun n => safe m n

theorem retrySafe_unless (stands : Prop) [Decidable stands] (remarks : Annotations) {write : Op α}
    (safe : RetrySafe write) (noted : α → Annotations) :
    RetrySafe (if stands then .done remarks else write >>= fun a => .done (noted a)) := by
  by_cases there : stands
  · rw [if_pos there]
    exact retrySafe_of_reading (.done _)
  · rw [if_neg there]
    exact retrySafe_bind_last safe fun a => failsForGood_done _

theorem list_reads (s : Syncer) (c : Client) (token : PageToken) :
    (s.list c token).AsksOnly Request.IsGet := by
  cases s with
  | agents => exact listing_asksOnly _ (fun p => Client.page_asksOnly c Agent.codec _ _ p _) _ token
  | requesters =>
    exact listing_asksOnly _ (fun p => Client.page_asksOnly c Requester.codec _ _ p _) _ token
  | agentGroups =>
    exact listing_asksOnly _ (fun p => Client.page_asksOnly c AgentGroup.codec _ _ p _) _ token
  | roles => exact listing_asksOnly _ (fun p => Client.page_asksOnly c Role.codec _ _ p _) _ token
  | requesterGroups =>
    exact listing_asksOnly _ (fun p => Client.page_asksOnly c RequesterGroup.codec _ _ p _) _ token

theorem role_grants_read (c : Client) (role : Resource) (token : PageToken) :
    (RoleAssignment.grants c role token).AsksOnly Request.IsGet := by
  refine (recordIdOp_asksOnly _ role.id).bind fun id => ?_
  refine (asksOnly_ofExcept _ _).bind fun cursor => ?_
  cases cursor with
  | users page =>
    exact (asksOnly_op (Client.page_asksOnly c Agent.codec _ _ _ _)).bind fun page => .done _
  | groups page =>
    exact (asksOnly_op (Client.page_asksOnly c AgentGroup.codec _ _ _ _)).bind fun page => .done _
  | done => exact .done _

theorem grants_read (s : Syncer) (c : Client) (r : Resource) (token : PageToken) :
    (s.grants c r token).AsksOnly Request.IsGet := by
  cases s with
  | agents => exact .done _
  | requesters => exact .done _
  | agentGroups =>
    refine (recordIdOp_asksOnly _ r.id).bind fun id => ?_
    exact (asksOnly_op (Client.reply_asksOnly _ _ _ _)).bind fun group => .done _
  | roles => exact role_grants_read c r token
  | requesterGroups =>
    refine (recordIdOp_asksOnly _ r.id).bind fun id => ?_
    exact listing_asksOnly _ (fun p => Client.page_asksOnly _ _ _ _ p _) _ token

theorem roster_safe (r : Roster α ρ) (c : Client) (k : Change) : RetrySafe (r.change c k) := by
  rw [Roster.change]
  refine retrySafe_bind (asksOnly_op (Client.reply_asksOnly c _ _ _)) fun record => ?_
  exact retrySafe_unless _ _ (retrySafe_reply _ _ _) _

theorem change_safe (kind : AccessKind) (c : Client) (call : AccessCall) :
    RetrySafe (call.op kind.syncer c) := by
  obtain ⟨action, admitted⟩ := kind.op_eq c call
  rw [admitted]
  refine retrySafe_admitted _ _ _ fun m n => ?_
  cases kind with
  | agentGroup => exact roster_safe _ c _
  | role => exact roster_safe _ c _
  | requesterGroup =>
    refine retrySafe_bind (asksOnly_op (scan_reads c m _ .first)) fun found => ?_
    exact retrySafe_unless _ _ (retrySafe_acknowledge _) _

theorem call_safe (s : Syncer) (c : Client) (call : AccessCall) : RetrySafe (call.op s c) := by
  cases s with
  | agents =>
    cases call with
    | grant principal e => exact retrySafe_of_reading (.fail _)
    | revoke g => exact retrySafe_of_reading (.fail _)
  | requesters =>
    cases call with
    | grant principal e => exact retrySafe_of_reading (.fail _)
    | revoke g => exact retrySafe_of_reading (.fail _)
  | agentGroups => exact change_safe .agentGroup c call
  | roles => exact change_safe .role c call
  | requesterGroups => exact change_safe .requesterGroup c call

namespace Ticketing

theorem details_read (c : Client) (items : List CatalogItem) (rateLimit : Option RateLimit) :
    (details c rateLimit items).AsksOnly Request.IsGet := by
  induction items generalizing rateLimit with
  | nil => exact .done _
  | cons i rest ih =>
    rw [details]
    by_cases offered : i.isOffered = true
    · rw [if_pos offered]
      refine AsksOnly.bind (Client.reply_asksOnly _ _ _ _) fun reply => ?_
      exact (ih _).bind fun others => .done _
    · rw [if_neg offered]
      exact ih rateLimit

theorem listSchemas_reads (c : Client) (token : PageToken) :
    (listSchemas c token).AsksOnly Request.IsGet := by
  refine (asksOnly_ofExcept _ _).bind fun request => ?_
  refine (asksOnly_op (Client.page_asksOnly _ _ _ _ _ _)).bind fun page => ?_
  exact (asksOnly_op (details_read c page.items _)).bind fun found => .done _

theorem filedBy_reads (c : Client) (t : Ticket) : (filedBy c t).AsksOnly Request.IsGet := by
  rw [filedBy]
  cases t.reporter with
  | some reporter => exact asksOnly_ofExcept _ _
  | none =>
    refine (asksOnly_op (Client.reply_asksOnly _ _ _ _)).bind fun reply => ?_
    split
    · exact .done _
    · exact .fail _

theorem complete_failsForGood (c : Client) (t : Ticket) (created : DeskTicket)
    (noted : Annotations) : FailsForGood (complete c t created noted) := by
  intro log f ends
  rcases Ends.of_follow ends with ⟨_, _, _, _, _, second⟩ | ⟨_, _, _, _, _, second⟩ | ⟨_, crash⟩
  · cases second
  · cases second
    rfl
  · cases crash

theorem create_safe (c : Client) (t : Ticket) (s : TicketSchema) : RetrySafe (create c t s) := by
  refine retrySafe_bind (asksOnly_ofExcept _ _) fun _ => ?_
  refine retrySafe_bind (asksOnly_ofExcept _ _) fun displayId => ?_
  refine retrySafe_bind (asksOnly_ofExcept _ _) fun requestedFor => ?_
  refine retrySafe_bind (filedBy_reads c t) fun filed => ?_
  refine retrySafe_bind_last (retrySafe_reply _ _ _) fun created => ?_
  exact complete_failsForGood c t created.data _

end Ticketing

theorem bulk_failsForGood (single : α → Op (Ticket × Annotations)) (items : List α) :
    FailsForGood (TicketOutcome.bulk single items) := by
  intro log f ends
  induction items generalizing log with
  | nil => cases ends
  | cons x rest ih =>
    rcases Ends.of_bind ends with ⟨_, _, after, _, _, second⟩ | ⟨e, first, _⟩ | ⟨_, crash⟩
    · rcases Ends.of_bind second with ⟨_, _, _, _, _, third⟩ | ⟨e, others, same⟩ | ⟨_, crash⟩
      · cases third
      · cases same
        exact ih after others
      · cases crash
    · rcases Ends.of_follow first with ⟨_, _, _, _, _, second⟩ | ⟨_, _, _, _, _, second⟩ |
        ⟨_, crash⟩
      · cases second
      · cases second
      · cases crash
    · cases crash

theorem FailsForGood.retrySafe {op : Op β} (forGood : FailsForGood op) : RetrySafe op := by
  intro log f ends transient
  rw [forGood log f ends] at transient
  cases transient

theorem operation_safe (c : Connector) (k : Operation) : RetrySafe (k.op c) := by
  cases k with
  | list s token => exact retrySafe_of_reading (list_reads s c.client token)
  | entitlements s r => exact retrySafe_of_reading (.done _)
  | grants s r token => exact retrySafe_of_reading (grants_read s c.client r token)
  | grant s principal e => exact call_safe s c.client (.grant principal e)
  | revoke s g => exact call_safe s c.client (.revoke g)
  | validate =>
    refine retrySafe_of_reading ?_
    exact (asksOnly_op (Client.page_asksOnly c.client Agent.codec _ _ _ _)).bind fun page => .done _
  | listSchemas token => exact retrySafe_of_reading (Ticketing.listSchemas_reads c.client token)
  | schema id =>
    refine retrySafe_of_reading ((asksOnly_ofExcept _ _).bind fun displayId => ?_)
    exact (asksOnly_op (Client.reply_asksOnly _ _ _ _)).bind fun item => .done _
  | ticket id =>
    refine retrySafe_of_reading ((asksOnly_ofExcept _ _).bind fun number => ?_)
    exact (asksOnly_op (Client.reply_asksOnly _ _ _ _)).bind fun found => .done _
  | tickets ids => exact (bulk_failsForGood _ ids).retrySafe
  | create t s => exact Ticketing.create_safe c.client t s
  | createAll requests => exact (bulk_failsForGood _ requests).retrySafe

/-- A failure that may go away when the operation is tried again follows no write that was answered
    with success, when the bodies of such answers came in full. -/
theorem transient_failure_follows_no_accepted_write {σ : Type} (c : Connector) (k : Operation)
    (server : σ → Request → Answer × σ) (s : σ) (f : Failure)
    (failed : ((k.op c).run server s).1 = .fail f) (transient : f.isTransient = true)
    (whole : ∀ x ∈ (k.op c).log server s, ∀ r, x.2 = .ok r → r.isSuccess = true →
      r.body.isOk = true) :
    ∀ x ∈ (k.op c).log server s, x.1.method ≠ .get → ∀ r, x.2 = .ok r → r.isSuccess = false := by
  intro x hx write r answered
  have ends := ends_of_run server (k.op c) s
  rw [failed] at ends
  cases success : r.isSuccess with
  | false => rfl
  | true =>
    refine absurd ⟨?_, r, answered, success⟩ (operation_safe c k _ f ends transient whole x hx)
    rw [Request.isWrite, bne_iff_ne]
    exact write

def laptop : TicketSchema := ⟨"17", "Laptop", .empty, []⟩

def ann : Resource :=
  Agent.resource ⟨31, some "Ann", none, some "ann@acme.org", none, [], none, none, none, none,
    none, none, none, none, none⟩

def laptopWanted : Ticket :=
  ⟨"", "Laptop", "", none, [], none, none, none, .empty, none, some ann⟩

def placement : Op (Ticket × Annotations) := (Operation.create laptopWanted laptop).op ⟨acme, true⟩

def overloaded : Response := ⟨503, [], .ok "", midnight⟩

def endsTransiently : Outcome Failure α → Bool
  | .fail f => f.isTransient
  | _ => false

theorem overloaded_placement_not_accepted :
    ∃ f, (placement.run (constantServer overloaded) ()).1 = .fail f ∧ f.isTransient = true ∧
      (placement.log (constantServer overloaded) ()).map (fun x => x.1.method) = [.post] ∧
      ∀ x ∈ placement.log (constantServer overloaded) (), x.1.method ≠ .get →
        ∀ r, x.2 = .ok r → r.isSuccess = false := by
  have ends : endsTransiently (placement.run (constantServer overloaded) ()).1 = true := by
    decide +kernel
  have asked : (placement.log (constantServer overloaded) ()).map (fun x => x.1.method) =
      [.post] := by
    decide +kernel
  cases failed : (placement.run (constantServer overloaded) ()).1 with
  | done _ =>
    rw [failed] at ends
    cases ends
  | crash =>
    rw [failed] at ends
    cases ends
  | fail f =>
    rw [failed] at ends
    refine ⟨f, rfl, ends, asked, ?_⟩
    refine transient_failure_follows_no_accepted_write ⟨acme, true⟩
      (.create laptopWanted laptop) (constantServer overloaded) () f failed ends ?_
    intro x hx r answered success
    obtain ⟨_, same⟩ := answer_of_log hx
    rw [answered] at same
    cases same
    cases success

/-- A body that does not come in time hides that the placement was accepted. -/
example : endsTransiently (placement.run
    (constantServer ⟨201, [], .error .unreachable, midnight⟩) ()).1 = true := by decide +kernel

end IdentitySync.Desk
