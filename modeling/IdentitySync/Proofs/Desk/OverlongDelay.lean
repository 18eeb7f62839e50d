import IdentitySync.Proofs.Desk.RetrySafety
import IdentitySync.Proofs.Time.Calendar

/-!
When an operation crashes. Every answer of success is asked for its quota, and the moment at which
the quota's window ends is looked for in the calendar: a delay that is read as a number but leads
beyond the last second of the calendar ends the operation without a result. Nothing else does.
-/
namespace IdentitySync

namespace Http
open Time

/-- The answer names a delay that leads beyond the calendar. -/
def LeadsBeyond (r : Response) : Prop :=
  ∃ n, r.retryAfter = some n ∧ n ≤ greatestDelay ∧
    Timestamp.lastSecond < r.receivedAt.epochSeconds + n.toNat

theorem resetAt?_eq_none_iff (receivedAt : Timestamp) (delay : Option UInt64) :
    resetAt? receivedAt delay = none ↔ ∃ n, delay = some n ∧ n ≤ greatestDelay ∧
      Timestamp.lastSecond < receivedAt.epochSeconds + n.toNat := by
  cases delay with
  | none => exact ⟨nofun, nofun⟩
  | some n =>
    rw [resetAt?]
    by_cases passed : greatestDelay < n
    · rw [if_pos passed]
      refine ⟨nofun, ?_⟩
      rintro ⟨_, same, within, _⟩
      cases same
      exact absurd passed (UInt64.not_lt.mpr within)
    · rw [if_neg passed, Option.map_eq_none_iff, Timestamp.later?_eq_none_iff]
      refine ⟨fun late => ⟨n, rfl, UInt64.not_lt.mp passed, late⟩, ?_⟩
      rintro ⟨_, same, _, late⟩
      cases same
      exact late

theorem quota?_eq_none_iff (r : Response) : quota? r = none ↔ LeadsBeyond r := by
  rw [LeadsBeyond, ← resetAt?_eq_none_iff]
  simp only [quota?]
  split
  · rename_i silent
    have delay : r.retryAfter = none := by
      simp only [Bool.and_eq_true, Option.isNone_iff_eq_none] at silent
      exact silent.2
    rw [delay]
    exact ⟨nofun, nofun⟩
  · exact Option.map_eq_none_iff

end Http

namespace Desk
open Http Exchange

variable {α β γ ε ρ : Type}

def Upsets (a : Answer) : Prop := ∃ r, a = .ok r ∧ r.isSuccess = true ∧ LeadsBeyond r

/-- A run crashes exactly when an answer upsets it, which then was the last. -/
def CrashesExactly (op : Exchange Request Answer ε α) : Prop :=
  ∀ (σ : Type) (server : σ → Request → Answer × σ) (s : σ),
    ((op.run server s).1 = .crash ↔ ∃ x ∈ op.log server s, Upsets x.2) ∧
    ∀ x ∈ (op.log server s).dropLast, ¬Upsets x.2

theorem crashesExactly {op : Exchange Request Answer ε α} (own : op.CrashesOn Upsets) :
    CrashesExactly op := fun _ server s => own.run_iff server s

theorem asking_crashesOn (c : Client) (q : Request) (read : Response → Except Fault γ)
    (make : Response → Option RateLimit → γ → α) : (c.asking q read make).CrashesOn Upsets := by
  rw [Client.asking, Client.send]
  cases c.target? q with
  | none => exact .fail _
  | some target =>
    refine .ask (fun answer upsets => ?_) fun answer calm => ?_
    · obtain ⟨r, rfl, success, beyond⟩ := upsets
      simp only [success, ↓reduceIte, follow, Client.withQuota, (quota?_eq_none_iff r).mpr beyond]
    · cases answer with
      | error f => exact .fail _
      | ok r =>
        by_cases success : r.isSuccess = true
        · simp only [success, ↓reduceIte, follow, Client.withQuota]
          cases quota : quota? r with
          | none => exact absurd ⟨r, rfl, success, (quota?_eq_none_iff r).mp quota⟩ calm
          | some limit => exact crashesOn_ofExcept _ _
        · simp only [success, Bool.false_eq_true, ↓reduceIte, follow]
          exact .fail _

theorem page_crashesOn (c : Client) (codec : Codec α) (key : String) (e : Endpoint)
    (p : PageRequest) (more : List (String × String)) :
    (c.page codec key e p more).CrashesOn Upsets := by
  refine CrashesOn.follow (asking_crashesOn c _ _ _) (fun f => ?_) .done
  by_cases soft : f.isSoft = true
  · rw [if_pos soft]
    exact .done _
  · rw [if_neg soft]
    exact .fail f

theorem reply_crashesOn (c : Client) (codec : Codec α) (key : String) (q : Request) :
    (c.reply codec key q).op.CrashesOn Upsets := (asking_crashesOn c q _ _).mapFailure _

theorem acknowledge_crashesOn (c : Client) (q : Request) :
    (c.acknowledge q).op.CrashesOn Upsets := by
  rw [Client.acknowledge_eq]
  exact (asking_crashesOn c q _ _).mapFailure _

theorem page_op_crashesOn (c : Client) (codec : Codec α) (key : String) (e : Endpoint)
    (p : PageRequest) (more : List (String × String)) :
    (c.page codec key e p more).op.CrashesOn Upsets := (page_crashesOn c _ _ _ p _).mapFailure _

theorem recordIdOp_crashesOn (id : ResourceId) : (recordIdOp id).CrashesOn Upsets :=
  (crashesOn_ofExcept _ _).mapFailure _

theorem listing_crashesOn (c : Client) (resourceType : String) (codec : Codec α) (key : String)
    (e : Endpoint) (more : List (String × String)) (image : α → β) (token : PageToken) :
    (listing resourceType (fun p => c.page codec key e p more) image token).CrashesOn Upsets := by
  refine (crashesOn_ofExcept _ _).bind fun stack => ?_
  refine (crashesOn_ofExcept _ _).bind fun request => ?_
  exact (page_op_crashesOn c codec key e request more).bind fun page => .done _

theorem list_crashesOn (s : Syncer) (c : Client) (token : PageToken) :
    (s.list c token).CrashesOn Upsets := by
  cases s with
  | agents => exact listing_crashesOn c _ Agent.codec _ _ _ _ token
  | requesters => exact listing_crashesOn c _ Requester.codec _ _ _ _ token
  | agentGroups => exact listing_crashesOn c _ AgentGroup.codec _ _ _ _ token
  | roles => exact listing_crashesOn c _ Role.codec _ _ _ _ token
  | requesterGroups => exact listing_crashesOn c _ RequesterGroup.codec _ _ _ _ token

theorem role_grants_crashesOn (c : Client) (role : Resource) (token : PageToken) :
    (RoleAssignment.grants c role token).CrashesOn Upsets := by
  refine (recordIdOp_crashesOn role.id).bind fun id => ?_
  refine (crashesOn_ofExcept _ _).bind fun cursor => ?_
  cases cursor with
  | users page => exact (page_op_crashesOn c Agent.codec _ _ _ _).bind fun page => .done _
  | groups page => exact (page_op_crashesOn c AgentGroup.codec _ _ _ _).bind fun page => .done _
  | done => exact .done _

theorem grants_crashesOn (s : Syncer) (c : Client) (r : Resource) (token : PageToken) :
    (s.grants c r token).CrashesOn Upsets := by
  cases s with
  | agents => exact .done _
  | requesters => exact .done _
  | agentGroups =>
    refine (recordIdOp_crashesOn r.id).bind fun id => ?_
    exact (reply_crashesOn c _ _ _).bind fun group => .done _
  | roles => exact role_grants_crashesOn c r token
  | requesterGroups =>
    refine (recordIdOp_crashesOn r.id).bind fun id => ?_
    exact listing_crashesOn c _ GroupMember.codec _ _ _ _ token

theorem scan_crashesOn (c : Client) (groupId id : UInt64) (p : PageRequest) :
    (RequesterMembership.scan c groupId id p).CrashesOn Upsets := by
  fun_induction RequesterMembership.scan c groupId id p with
  | case1 p ih =>
    refine CrashesOn.bind (asking_crashesOn c _ _ _) fun page => ?_
    split
    · exact .done _
    · split
      · exact .done _
      · rename_i next _
        split
        · rename_i ahead
          exact ih next ahead
        · exact .done _

theorem admitted_crashesOn (call : AccessCall) (expected action : String)
    {rest : UInt64 → UInt64 → Op β} (own : ∀ m n, (rest m n).CrashesOn Upsets) :
    (call.admitted expected action rest).CrashesOn Upsets := by
  rw [AccessCall.admitted]
  refine CrashesOn.bind ?_ fun _ => ?_
  · rw [requirePrincipal]
    split
    · exact .done ()
    · exact .fail _
  · refine (recordIdOp_crashesOn call.entitlement.resource.id).bind fun m => ?_
    exact (recordIdOp_crashesOn call.principal).bind fun n => own m n

theorem unless_crashesOn (stands : Prop) [Decidable stands] (remarks : Annotations)
    {write : Op Annotations} (own : write.CrashesOn Upsets) :
    (if stands then .done remarks else write).CrashesOn Upsets := by
  split
  · exact .done _
  · exact own

theorem roster_crashesOn (r : Roster α ρ) (c : Client) (k : Change) :
    (r.change c k).CrashesOn Upsets := by
  refine (reply_crashesOn c _ _ _).bind fun record => ?_
  exact unless_crashesOn _ _ ((reply_crashesOn c _ _ _).bind fun written => .done _)

theorem change_crashesOn (kind : AccessKind) (c : Client) (call : AccessCall) :
    (call.op kind.syncer c).CrashesOn Upsets := by
  obtain ⟨action, admitted⟩ := kind.op_eq c call
  rw [admitted]
  refine admitted_crashesOn _ _ _ fun m n => ?_
  cases kind with
  | agentGroup => exact roster_crashesOn _ c _
  | role => exact roster_crashesOn _ c _
  | requesterGroup =>
    refine CrashesOn.bind ((scan_crashesOn c m _ .first).mapFailure _) fun found => ?_
    refine unless_crashesOn _ _ (CrashesOn.bind ?_ fun changed => .done _)
    exact acknowledge_crashesOn c _

theorem call_crashesOn (s : Syncer) (c : Client) (call : AccessCall) :
    (call.op s c).CrashesOn Upsets := by
  cases s with
  | agents => cases call <;> exact .fail _
  | requesters => cases call <;> exact .fail _
  | agentGroups => exact change_crashesOn .agentGroup c call
  | roles => exact change_crashesOn .role c call
  | requesterGroups => exact change_crashesOn .requesterGroup c call

namespace Ticketing

theorem details_crashesOn (c : Client) (items : List CatalogItem) (rateLimit : Option RateLimit) :
    (details c rateLimit items).CrashesOn Upsets := by
  induction items generalizing rateLimit with
  | nil => exact .done _
  | cons i rest ih =>
    rw [details]
    split
    · refine CrashesOn.bind (asking_crashesOn c _ _ _) fun reply => ?_
      exact (ih _).bind fun others => .done _
    · exact ih rateLimit

theorem filedBy_crashesOn (c : Client) (t : Ticket) : (filedBy c t).CrashesOn Upsets := by
  rw [filedBy]
  cases t.reporter with
  | some reporter => exact crashesOn_ofExcept _ _
  | none =>
    refine (reply_crashesOn c _ _ _).bind fun reply => ?_
    split
    · exact .done _
    · exact .fail _

theorem create_crashesOn (c : Client) (t : Ticket) (s : TicketSchema) :
    (create c t s).CrashesOn Upsets := by
  refine (crashesOn_ofExcept _ _).bind fun _ => ?_
  refine (crashesOn_ofExcept _ _).bind fun displayId => ?_
  refine (crashesOn_ofExcept _ _).bind fun requestedFor => ?_
  refine (filedBy_crashesOn c t).bind fun filed => ?_
  refine (reply_crashesOn c _ _ _).bind fun created => ?_
  exact CrashesOn.follow (asking_crashesOn c _ _ _) (fun fault => .fail _) fun updated => .done _

theorem ticket_crashesOn (c : Client) (id : String) : (ticket c id).CrashesOn Upsets := by
  refine (crashesOn_ofExcept _ _).bind fun number => ?_
  exact (reply_crashesOn c _ _ _).bind fun found => .done _

theorem listSchemas_crashesOn (c : Client) (token : PageToken) :
    (listSchemas c token).CrashesOn Upsets := by
  refine (crashesOn_ofExcept _ _).bind fun request => ?_
  refine (page_op_crashesOn c CatalogItem.codec _ _ _ _).bind fun page => ?_
  exact ((details_crashesOn c page.items _).mapFailure _).bind fun found => .done _

theorem schema_crashesOn (c : Client) (id : String) : (schema c id).CrashesOn Upsets := by
  refine (crashesOn_ofExcept _ _).bind fun displayId => ?_
  exact (reply_crashesOn c CatalogItem.codec _ _).bind fun item => .done _

end Ticketing

theorem bulk_crashesOn (items : List α) {single : α → Op (Ticket × Annotations)}
    (own : ∀ x, (single x).CrashesOn Upsets) :
    (TicketOutcome.bulk single items : Op (List TicketOutcome)).CrashesOn Upsets := by
  induction items with
  | nil => exact .done _
  | cons x rest ih =>
    refine CrashesOn.bind ((own x).follow (fun f => .done _) fun a => .done _) fun result => ?_
    exact ih.bind fun others => .done _

theorem validate_crashesOn (c : Connector) : c.validate.CrashesOn Upsets := by
  refine CrashesOn.bind (page_op_crashesOn c.client Agent.codec _ _ _ _) fun page => ?_
  exact .done _

theorem operation_crashesOn (c : Connector) (k : Operation) : (k.op c).CrashesOn Upsets := by
  cases k with
  | list s token => exact list_crashesOn s c.client token
  | entitlements s r => exact .done _
  | grants s r token => exact grants_crashesOn s c.client r token
  | grant s principal e => exact call_crashesOn s c.client (.grant principal e)
  | revoke s g => exact call_crashesOn s c.client (.revoke g)
  | validate => exact validate_crashesOn c
  | listSchemas token => exact Ticketing.listSchemas_crashesOn c.client token
  | schema id => exact Ticketing.schema_crashesOn c.client id
  | ticket id => exact Ticketing.ticket_crashesOn c.client id
  | tickets ids => exact bulk_crashesOn ids (Ticketing.ticket_crashesOn c.client)
  | create t s => exact Ticketing.create_crashesOn c.client t s
  | createAll requests =>
    exact bulk_crashesOn requests fun r => Ticketing.create_crashesOn c.client r.1 r.2

/-- The quota of an answer cannot be told exactly when its delay leads beyond the calendar. Every
    call of the client and every operation crashes exactly when an answer of success is such. -/
theorem crashes_exactly_beyond_calendar (c : Client) (switched : Bool) :
    (∀ r, quota? r = none ↔ LeadsBeyond r) ∧
    (∀ (α : Type) (codec : Codec α) key q, CrashesExactly (c.reply codec key q)) ∧
    (∀ q, CrashesExactly (c.acknowledge q)) ∧
    (∀ (α : Type) (codec : Codec α) key e p more,
      CrashesExactly (c.strictPage codec key e p more) ∧
      CrashesExactly (c.page codec key e p more)) ∧
    ∀ k : Operation, CrashesExactly (k.op ⟨c, switched⟩) := by
  refine ⟨quota?_eq_none_iff, fun α codec key q => ?_, fun q => ?_, fun α codec key e p more => ?_,
    fun k => crashesExactly (operation_crashesOn _ k)⟩
  · rw [Client.reply_eq]
    exact crashesExactly (asking_crashesOn c q _ _)
  · rw [Client.acknowledge_eq]
    exact crashesExactly (asking_crashesOn c q _ _)
  · rw [Client.strictPage_asking]
    exact ⟨crashesExactly (asking_crashesOn c _ _ _), crashesExactly (page_crashesOn c _ _ e p _)⟩

def isCrash : Outcome ε α → Bool
  | .crash => true
  | _ => false

theorem eq_crash_of_isCrash {o : Outcome ε α} (h : isCrash o = true) : o = .crash := by
  cases o with
  | crash => rfl
  | done a => cases h
  | fail e => cases h

/-- The delay is the least whose milliseconds do not fit a signed word. -/
def patient : Response := ⟨200, [("Retry-After", "9223372036854776")], .ok "", midnight⟩

theorem patient_answer_crashes :
    quota? patient = none ∧
    ((acme.agents .first).run (constantServer patient) ()).1 = .crash := by
  have crashes : isCrash ((acme.agents .first).run (constantServer patient) ()).1 = true := by
    decide +kernel
  exact ⟨by decide +kernel, eq_crash_of_isCrash crashes⟩

example : quota? ⟨200, [("Retry-After", "9223372036854775808")], .ok "", midnight⟩ =
    some (some ⟨.ok, 0, 0, none⟩) := by decide +kernel

end Desk
end IdentitySync
