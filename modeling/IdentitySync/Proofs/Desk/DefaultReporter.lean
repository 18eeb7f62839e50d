import IdentitySync.Proofs.Desk.TicketCreation
import IdentitySync.Proofs.Desk.UserImage

/-!
Tickets without a reporter. They are filed by the agent whom the key belongs to, and this is the
same as to name that agent's image as the reporter: once the agent is known, the same requests are
sent and the creation ends in the same way. Only the quota of the answer about the agent is noted
beside the rest, and an agent without an email is refused in other words.
-/
namespace IdentitySync.Desk
open Http Exchange

def loginless (r : Resource) : Failure := .invalidData (principalText r ++ " has no login")

theorem principalLogin_of_signsIn {r : Resource} {u : UserTrait} {email : Option String}
    (user : r.user? = some u) (signsIn : SignsIn u email) :
    principalLogin r = email.elim (.error (loginless r)) .ok := by
  rw [principalLogin, user]
  cases signsIn with
  | known filled tidy login => simp only [login, Option.some_or, Option.elim_some]
  | unknown login emails =>
    simp only [login, emails, List.find?_nil, List.head?_nil, Option.or_none, Option.map_none]
    rfl

theorem principalLogin_resource (a : Agent) :
    principalLogin a.resource = a.emailAddress.elim (.error (loginless a.resource)) .ok := by
  obtain ⟨u, image⟩ := a.resource_coherent
  exact principalLogin_of_signsIn image.user image.signsIn

theorem principalLogin_eq_ok_iff (a : Agent) (e : String) :
    principalLogin a.resource = .ok e ↔ a.emailAddress = some e := by
  rw [principalLogin_resource]
  cases a.emailAddress with
  | some own => simp
  | none => simp

theorem withRateLimit_append (xs ys : Annotations) (quota : Option RateLimit) :
    Annotations.withRateLimit (xs ++ ys) quota = xs ++ ys.withRateLimit quota := by
  cases quota with
  | none => rfl
  | some quota => exact List.append_assoc xs ys _

namespace Ticketing

variable {c : Client} {t : Ticket} {s : TicketSchema}

def noted (before : Annotations) (given : Ticket × Annotations) : Ticket × Annotations :=
  (given.1, before ++ given.2)

def noting (before : Annotations) (p : Op (Ticket × Annotations)) : Op (Ticket × Annotations) :=
  p.follow .fail fun given => .done (noted before given)

theorem noting_bind {α : Type} (before : Annotations) (p : Op α)
    (f : α → Op (Ticket × Annotations)) :
    noting before (p >>= f) = p >>= fun a => noting before (f a) :=
  follow_follow p .fail f .fail fun given => .done (noted before given)

theorem noting_run {σ : Type} (before : Annotations) (p : Op (Ticket × Annotations))
    (server : σ → Request → Answer × σ) (s : σ) :
    (noting before p).run server s =
      ((p.run server s).1.map id (noted before), (p.run server s).2) :=
  run_follow_map id (noted before) p server s

theorem noting_log {σ : Type} (before : Annotations) (p : Op (Ticket × Annotations))
    (server : σ → Request → Answer × σ) (s : σ) :
    (noting before p).log server s = p.log server s :=
  log_follow_map id (noted before) p server s

theorem complete_noting (created : DeskTicket) (before notes : Annotations) :
    complete c t created (before ++ notes) = noting before (complete c t created notes) := by
  rw [noting, complete, complete, follow_follow]
  simp only [withRateLimit_append]
  rfl

theorem placing_noting (ready : UInt64 × Option String) (email : String) (before : Annotations) :
    placing c t s ready (email, before) = noting before (placing c t s ready (email, [])) := by
  have rest : ∀ created : Reply DeskTicket,
      complete c t created.data (before.withRateLimit created.rateLimit) = noting before
        (complete c t created.data (Annotations.withRateLimit [] created.rateLimit)) := by
    intro created
    rw [← complete_noting, ← withRateLimit_append, List.append_nil]
  simp only [placing, rest, noting_bind]

def reportedBy (t : Ticket) (r : Resource) : Ticket := { t with reporter := some r }

def addressless : Failure := .invalidData "the API key's agent has no email address"

theorem ownAddress_eq (reply : Reply Agent) :
    ownAddress reply = reply.data.emailAddress.elim (.fail addressless) fun e =>
      .done (e, Annotations.withRateLimit [] reply.rateLimit) := by
  rw [ownAddress]
  cases reply.data.emailAddress with
  | some e => rfl
  | none => rfl

theorem filedBy_reportedBy (me : Agent) :
    filedBy c (reportedBy t me.resource) =
      me.emailAddress.elim (.fail (loginless me.resource)) fun e => .done (e, []) := by
  rw [filedBy_reported rfl, principalLogin_resource]
  cases me.emailAddress with
  | some e => rfl
  | none => rfl

theorem address_bind (email : Option String) (f : Failure) (notes : Annotations)
    (place : String × Annotations → Op α) :
    (email.elim (.fail f) fun e => .done (e, notes) : Op (String × Annotations)) >>= place =
      email.elim (.fail f) fun e => place (e, notes) := by
  cases email with
  | some e => rfl
  | none => rfl

theorem create_reportedBy (me : Agent) :
    create c (reportedBy t me.resource) s = ofExcept (prepared t s) >>= fun ready =>
      me.emailAddress.elim (.fail (loginless me.resource)) fun e =>
        placing c t s ready (e, []) := by
  have known : prepared (reportedBy t me.resource) s = prepared t s := rfl
  have places : placing c (reportedBy t me.resource) s = placing c t s := rfl
  simp only [create_eq, known, places, filedBy_reportedBy, address_bind]

theorem create_asks (reached : c.Reaches .ownAgent) (unreported : t.reporter = none)
    {ready : UInt64 × Option String} (known : prepared t s = .ok ready) :
    ∃ next, create c t s = .ask ownAgentGet next ∧
      ∀ me r quota, Delivers Agent.codec "agent" me r → quota? r = some quota →
        next (.ok r) = me.emailAddress.elim (.fail addressless) fun e =>
          noting (Annotations.withRateLimit [] quota) (placing c t s ready (e, [])) := by
  obtain ⟨next, asks, goesOn⟩ := Client.op_asks Agent.codec "agent" ownAgentGet reached fun reply =>
    ownAddress reply >>= placing c t s ready
  refine ⟨next, ?_, fun me r quota delivers reported => ?_⟩
  · rw [create_eq, known, bind_ok, filedBy_unreported unreported, bind_bind]
    exact asks
  · rw [goesOn me r quota delivers reported, ownAddress_eq, address_bind]
    simp only [placing_noting ready _ (Annotations.withRateLimit [] quota)]

theorem principalText_toList (r : Resource) :
    (principalText r).toList = "ticket principal ".toList ++ r.id.text.toList :=
  String.toList_append

theorem loginless_ne_addressless (r : Resource) : loginless r ≠ addressless := by
  intro same
  have texts := congrArg (fun text => text.toList.take 2) (Failure.invalidData.inj same)
  simp only [String.toList_append, principalText_toList] at texts
  cases texts

/-- How a creation that asks for the key's own agent goes on, and how one goes that has this agent's
    image for a reporter and finds the server as the answer left it. -/
structure StandsIn (r : Response) (me : Agent) (rest rest' : CallLog)
    (o o' : Outcome Failure (Ticket × Annotations)) : Prop where
  requests : rest = rest'
  alike : me.emailAddress.isSome = true → ∃ quota, quota? r = some quota ∧
    o = o'.map id (noted (Annotations.withRateLimit [] quota))
  refused : me.emailAddress = none → rest = [] ∧ ∃ text text', text ≠ text' ∧
    o = .fail (.invalidData text) ∧ o' = .fail (.invalidData text')

theorem standsIn_of_address {σ : Type} {r : Response} (me : Agent) {quota : Option RateLimit}
    (reported : quota? r = some quota) (place : String → Op (Ticket × Annotations))
    (server : σ → Request → Answer × σ) (s : σ) :
    let rest := me.emailAddress.elim (.fail addressless) fun e =>
      noting (Annotations.withRateLimit [] quota) (place e)
    let named := me.emailAddress.elim (.fail (loginless me.resource)) place
    (rest.run server s).2 = (named.run server s).2 ∧
      StandsIn r me (rest.log server s) (named.log server s) (rest.run server s).1
        (named.run server s).1 := by
  intro rest named
  cases address : me.emailAddress with
  | some e =>
    have goesOn : rest = noting (Annotations.withRateLimit [] quota) (place e) := by
      simp only [rest, address, Option.elim_some]
    have own : named = place e := by simp only [named, address, Option.elim_some]
    rw [goesOn, own, noting_run, noting_log]
    refine ⟨rfl, rfl, fun _ => ⟨quota, reported, rfl⟩, fun none => ?_⟩
    rw [address] at none
    cases none
  | none =>
    have goesOn : rest = .fail addressless := by simp only [rest, address, Option.elim_none]
    have own : named = .fail (loginless me.resource) := by
      simp only [named, address, Option.elim_none]
    rw [goesOn, own]
    refine ⟨rfl, rfl, fun some => ?_, fun _ => ⟨rfl, _, _, fun same => ?_, rfl, rfl⟩⟩
    · rw [address] at some
      cases some
    · exact loginless_ne_addressless me.resource (congrArg Failure.invalidData same.symm)

/-- The login of an agent's image is the agent's email, which is not blank. To create a ticket
    without a reporter is to ask for the key's own agent and then to go on as if this agent's image
    were the reporter, with the same requests, and with the same ticket or failure in the end; only
    the quota of that one answer is noted in front of the rest. Without an email both are refused.
    A ticket that is not ready is refused in one way, and nothing is asked. -/
theorem own_agent_stands_in_for_reporter {σ : Type} (c : Client) (reached : c.Reaches .ownAgent)
    (s : TicketSchema) (t : Ticket) (unreported : t.reporter = none) (me : Agent)
    (server : σ → Request → Answer × σ) (start : σ) (r : Response)
    (answered : (server start ownAgentGet).1 = .ok r)
    (delivers : Delivers Agent.codec "agent" me r) :
    let call := create c t s
    let named := create c (reportedBy t me.resource) s
    let next := (server start ownAgentGet).2
    (∀ (a : Agent) (e : String), principalLogin a.resource = .ok e ↔ a.emailAddress = some e) ∧
    (∀ (a : Agent) (e : String), a.emailAddress = some e → e ≠ "" ∧ Text.trim e = e) ∧
    ((∃ displayId requestedFor, Ready t s displayId requestedFor) →
      ∃ rest, call.log server start = (ownAgentGet, .ok r) :: rest ∧
        (call.run server start).2 = (named.run server next).2 ∧
        StandsIn r me rest (named.log server next) (call.run server start).1
          (named.run server next).1) ∧
    ((∀ displayId requestedFor, ¬Ready t s displayId requestedFor) →
      call.log server start = [] ∧ named.log server next = [] ∧ ∃ f,
        call.run server start = (.fail f, start) ∧ named.run server next = (.fail f, next)) := by
  intro call named next
  refine ⟨principalLogin_eq_ok_iff, fun a e => Agent.emailAddress_tidy, ?_⟩
  rcases prepared_cases t s with ⟨displayId, requestedFor, ready, known⟩ | ⟨unready, f, refused, _⟩
  · refine ⟨fun _ => ?_, fun unready => absurd ready (unready _ _)⟩
    obtain ⟨goesOn, asks, continues⟩ := create_asks reached unreported known
    obtain ⟨quota, reported⟩ := Option.isSome_iff_exists.mp delivers.quota
    have logged : call.log server start =
        (ownAgentGet, .ok r) :: (goesOn (.ok r)).log server next := by
      simp only [call, asks, Exchange.log, answered, next]
    have ran : call.run server start = (goesOn (.ok r)).run server next := by
      simp only [call, asks, Exchange.run, answered, next]
    have own : named = me.emailAddress.elim (.fail (loginless me.resource)) fun e =>
        placing c t s (displayId, requestedFor) (e, []) := by
      simp only [named, create_reportedBy, known]
      rfl
    refine ⟨_, logged, ?_⟩
    rw [ran, own, continues me r quota delivers reported]
    exact standsIn_of_address me reported _ server next
  · have never : ¬∃ displayId requestedFor, Ready t s displayId requestedFor := by
      rintro ⟨displayId, requestedFor, ready⟩
      exact unready displayId requestedFor ready
    refine ⟨fun ready => absurd ready never, fun _ => ?_⟩
    have call_eq : call = .fail f := by
      simp only [call, create_eq, refused]
      rfl
    have named_eq : named = .fail f := by
      simp only [named, create_reportedBy, refused]
      rfl
    rw [call_eq, named_eq]
    exact ⟨rfl, rfl, f, rfl, rfl⟩

def keyHolder : Agent :=
  ⟨31, none, none, some "ann@acme.org", none, [], none, none, none, none, none, none, none, none,
    none⟩

theorem leftBehind_map {α β : Type} (o : Outcome Failure α) (f : α → β) :
    leftBehind (o.map id f) = leftBehind o := by
  cases o <;> rfl

theorem key_holder_stands_in :
    let next := (stubbornServer () ownAgentGet).2
    let call := create acme unreported laptop
    let named := create acme (reportedBy unreported keyHolder.resource) laptop
    principalLogin keyHolder.resource = .ok "ann@acme.org" ∧
      (call.log stubbornServer ()).map (fun x => x.1.method) = [.get, .post, .put] ∧
      (named.log stubbornServer next).map (fun x => x.1.method) = [.post, .put] ∧
      leftBehind (call.run stubbornServer ()).1 = some "901" ∧
      leftBehind (named.run stubbornServer next).1 = some "901" := by
  intro next call named
  have asked : (call.log stubbornServer ()).map (fun x => x.1.method) = [.get, .post, .put] := by
    decide +kernel
  have left : leftBehind (call.run stubbornServer ()).1 = some "901" := by decide +kernel
  have delivers : ∃ r, (stubbornServer () ownAgentGet).1 = .ok r ∧
      Delivers Agent.codec "agent" keyHolder r :=
    ⟨_, rfl, delivers_of_toOption rfl (by decide +kernel) (by decide +kernel)⟩
  obtain ⟨r, answered, delivers⟩ := delivers
  obtain ⟨login, _, goesOn, _⟩ := own_agent_stands_in_for_reporter acme (acme_reaches _) laptop
    unreported rfl keyHolder stubbornServer () r answered delivers
  have ready : ∃ displayId requestedFor, Ready unreported laptop displayId requestedFor :=
    ⟨17, none, ⟨by decide +kernel, by decide +kernel, rfl⟩⟩
  obtain ⟨rest, logged, _, stands⟩ := goesOn ready
  obtain ⟨quota, _, ended⟩ := stands.alike (by decide +kernel)
  refine ⟨(login _ _).mpr (by decide +kernel), asked, ?_, left, ?_⟩
  · rw [logged, List.map_cons] at asked
    rw [← stands.requests]
    exact (List.cons.inj asked).2
  · rw [ended, leftBehind_map] at left
    exact left

end Ticketing

end IdentitySync.Desk
