import IdentitySync.Desk.RequesterMembership
import IdentitySync.Proofs.Desk.Answer
import IdentitySync.Proofs.Http.Log

/-!
What a call to the service desk can ask and how it can end, whatever is answered: the request has no
address, no answer comes, the answer is a refusal, it names a moment beyond the calendar, it cannot
be read, or the call gives what was read.
-/
namespace IdentitySync.Desk
open Http Exchange

abbrev CallLog := List (Request × Answer)

/-- The ways in which a call with this one request can end. Its faults are reported as `report`
    says, what it reads of an answer is given as `make` says. -/
inductive Answered (q : Request) (report : Fault → ε) (read : Response → Except Fault γ)
    (make : Response → Option RateLimit → γ → α) :
    CallLog → Outcome ε α → Prop where
  | unsent : Answered q report read make [] (.fail (report (.transport .interrupted)))
  | lost (f : TransportFault) :
      Answered q report read make [(q, .error f)] (.fail (report (.transport f)))
  | refused {r : Response} (refusal : r.isSuccess = false) :
      Answered q report read make [(q, .ok r)] (.fail (report (faultOf q.endpoint.path r)))
  | beyond {r : Response} (success : r.isSuccess = true) (beyond : quota? r = none) :
      Answered q report read make [(q, .ok r)] .crash
  | unreadable {r : Response} {e : Fault} (success : r.isSuccess = true) (bad : read r = .error e) :
      Answered q report read make [(q, .ok r)] (.fail (report e))
  | given {r : Response} {quota : Option RateLimit} {a : γ} (success : r.isSuccess = true)
      (known : quota? r = some quota) (good : read r = .ok a) :
      Answered q report read make [(q, .ok r)] (.done (make r quota a))

theorem Answered.map {q : Request} {report : Fault → ε} {read : Response → Except Fault γ}
    {make : Response → Option RateLimit → γ → α} {log : CallLog} {o : Outcome ε α} (f : ε → ε')
    (g : α → β) (h : Answered q report read make log o) :
    Answered q (fun e => f (report e)) read (fun r quota a => g (make r quota a)) log
      (o.map f g) := by
  cases h with
  | unsent => exact .unsent
  | lost f => exact .lost f
  | refused refusal => exact .refused refusal
  | beyond success beyond => exact .beyond success beyond
  | unreadable success bad => exact .unreadable success bad
  | given success known good => exact .given success known good

def constantServer (r : Response) : Unit → Request → Answer × Unit := fun _ _ => (.ok r, ())

def Request.IsGet (q : Request) : Prop := q.method = .get

namespace Client

variable {c : Client} {log : CallLog} {γ : Type}

def asking (c : Client) (q : Request) (read : Response → Except Fault γ)
    (make : Response → Option RateLimit → γ → α) : Call α :=
  c.send q >>= fun r => withQuota r fun quota => .ofExcept ((read r).map (make r quota))

theorem reply_eq (c : Client) (codec : Codec α) (key : String) (q : Request) :
    c.reply codec key q = c.asking q (decodeBody codec key) fun _ quota data => ⟨data, quota⟩ := rfl

theorem acknowledge_eq (c : Client) (q : Request) :
    c.acknowledge q = c.asking q (fun _ => .ok ()) fun _ quota _ => ⟨(), quota⟩ := rfl

theorem strictPage_asking (c : Client) (codec : Codec α) (key : String) (e : Endpoint)
    (p : PageRequest) (more : List (String × String)) :
    c.strictPage codec key e p more =
      c.asking ⟨.get, e, p.query ++ more, none⟩ (decodeBody codec.list key)
        fun r quota items => ⟨items, nextOf r, quota⟩ := rfl

theorem asking_ends {q : Request} {read : Response → Except Fault γ}
    {make : Response → Option RateLimit → γ → α} {o : Outcome Fault α}
    (h : Ends (c.asking q read make) log o) : Answered q id read make log o := by
  rw [asking, send] at h
  cases address : c.target? q with
  | none =>
    rw [address] at h
    cases h
    exact .unsent
  | some target =>
    rw [address] at h
    cases h with
    | ask answer rest =>
      cases answer with
      | error f =>
        cases rest
        exact .lost f
      | ok r =>
        by_cases success : r.isSuccess = true
        · simp only [success, ↓reduceIte, follow, withQuota] at rest
          cases quota : quota? r with
          | none =>
            rw [quota] at rest
            cases rest
            exact .beyond success quota
          | some limit =>
            rw [quota] at rest
            cases result : read r with
            | error e =>
              rw [result] at rest
              cases rest
              exact .unreadable success result
            | ok a =>
              rw [result] at rest
              cases rest
              exact .given success quota result
        · simp only [success, Bool.false_eq_true, ↓reduceIte, follow] at rest
          cases rest
          exact .refused (Bool.not_eq_true _ ▸ success)

theorem asking_sends {q : Request} {read : Response → Except Fault γ}
    {make : Response → Option RateLimit → γ → α} {o : Outcome Fault α}
    (reached : c.Reaches q.endpoint) (h : Ends (c.asking q read make) log o) : log ≠ [] := by
  obtain ⟨l, address⟩ := reached
  have target : c.target? q = some (l.target q.query) := by rw [target?, address]
  rw [asking, send, target] at h
  cases h
  exact List.cons_ne_nil _ _

theorem asking_unreached {q : Request} (read : Response → Except Fault γ)
    (make : Response → Option RateLimit → γ → α) (unreached : ¬c.Reaches q.endpoint) :
    c.asking q read make = .fail (.transport .interrupted) := by
  cases address : Url.parse (c.address q.endpoint) with
  | error e =>
    rw [asking, send, target?, address]
    rfl
  | ok l => exact absurd ⟨l, address⟩ unreached

theorem asking_op_ends {q : Request} {read : Response → Except Fault γ}
    {make : Response → Option RateLimit → γ → α} {o : Outcome Failure α}
    (h : Ends (c.asking q read make).op log o) :
    Answered q Fault.failure read make log o := by
  obtain ⟨own, ends, rfl⟩ := Ends.of_follow_map h
  exact (asking_ends ends).map Fault.failure id

/-- The ways in which a call for a page can end: as the strict one does, but an answer that came
    too late is an empty last page. -/
def PageAnswered (report : Fault → ε) (codec : Codec α) (key : String) (q : Request)
    (log : CallLog) (o : Outcome ε (Page α)) : Prop :=
  (∃ r, r.status = 408 ∧ log = [(q, .ok r)] ∧ o = .done .empty) ∨
    (Answered q report (decodeBody codec.list key) (fun r quota items => ⟨items, nextOf r, quota⟩)
      log o ∧ ∀ r, (q, .ok r) ∈ log → r.status ≠ 408)

theorem inTime_of_success {r : Response} (success : r.isSuccess = true) : r.status ≠ 408 := by
  intro late
  simp [Response.isSuccess, late] at success

theorem page_ends {codec : Codec α} {key : String} {e : Endpoint} {p : PageRequest}
    {more : List (String × String)} {o : Outcome Fault (Page α)}
    (ends : Ends (c.page codec key e p more) log o) :
    PageAnswered id codec key (pageAsk e p more) log o := by
  have only : ∀ {r r' : Response}, ((pageAsk e p more, .ok r') : Request × Answer) ∈
      [(pageAsk e p more, .ok r)] → r' = r := by
    intro r r' hr
    cases List.mem_singleton.mp hr
    rfl
  rcases Ends.of_follow ends with ⟨before, page, after, rfl, first, second⟩ |
    ⟨before, fault, after, rfl, first, second⟩ | ⟨first, rfl⟩
  · cases second
    rw [strictPage_asking] at first
    rw [List.append_nil]
    refine .inr ⟨asking_ends first, ?_⟩
    cases asking_ends first with
    | given success known good => exact fun r hr => only hr ▸ inTime_of_success success
  · rw [strictPage_asking] at first
    by_cases soft : fault.isSoft = true
    · rw [if_pos soft] at second
      cases second
      rw [List.append_nil]
      cases asking_ends first with
      | unsent => cases soft
      | lost f => cases soft
      | refused refusal => exact .inl ⟨_, faultOf_isSoft_iff.mp soft, rfl, rfl⟩
      | unreadable success bad =>
        rw [id, decodeBody_hard bad] at soft
        cases soft
    · rw [if_neg soft] at second
      cases second
      rw [List.append_nil]
      refine .inr ⟨asking_ends first, ?_⟩
      cases asking_ends first with
      | unsent => exact fun r hr => absurd hr List.not_mem_nil
      | lost f => exact fun r hr => absurd (List.mem_singleton.mp hr) (by simp)
      | refused refusal =>
        exact fun r hr => only hr ▸ fun late => soft (faultOf_isSoft_iff.mpr late)
      | unreadable success bad => exact fun r hr => only hr ▸ inTime_of_success success
  · rw [strictPage_asking] at first
    refine .inr ⟨asking_ends first, ?_⟩
    cases asking_ends first with
    | beyond success beyond => exact fun r hr => only hr ▸ inTime_of_success success

theorem withQuota_run {σ : Type} (server : σ → Request → Answer × σ) (s : σ) (r : Response)
    (result : Except Fault γ) (make : Option RateLimit → γ → α) :
    ∃ o, (withQuota r fun quota => .ofExcept (result.map (make quota))).run server s = (o, s) ∧
      ∀ quota a, quota? r = some quota → result = .ok a → o = .done (make quota a) := by
  rw [withQuota]
  cases known : quota? r with
  | none => exact ⟨.crash, rfl, fun quota a some => by cases some⟩
  | some quota =>
    cases result with
    | error e => exact ⟨.fail e, rfl, fun _ a _ good => by cases good⟩
    | ok a =>
      refine ⟨.done (make quota a), rfl, fun quota' a' some good => ?_⟩
      cases some
      cases good
      rfl

theorem asking_run {σ : Type} (server : σ → Request → Answer × σ) (s : σ) {q : Request}
    (read : Response → Except Fault γ) (make : Response → Option RateLimit → γ → α)
    (reached : c.Reaches q.endpoint) :
    ∃ o, (c.asking q read make).run server s = (o, (server s q).2) ∧
      ∀ r quota a, (server s q).1 = .ok r → r.isSuccess = true → quota? r = some quota →
        read r = .ok a → o = .done (make r quota a) := by
  cases answer : (server s q).1 with
  | error f =>
    obtain ⟨l, address⟩ := reached
    have target : c.target? q = some (l.target q.query) := by rw [target?, address]
    refine ⟨.fail (.transport f), ?_, fun r quota a same => by cases same⟩
    simp only [asking, send, target, bind, Exchange.bind, follow, run, answer]
  | ok r =>
    have sent := send_run reached answer
    by_cases success : r.isSuccess = true
    · rw [if_pos success] at sent
      obtain ⟨o, whole, given⟩ := withQuota_run server (server s q).2 r (read r) (make r)
      refine ⟨o, (run_bind_done sent _).trans whole, fun r' quota a same _ known good => ?_⟩
      cases same
      exact given quota a known good
    · rw [if_neg success] at sent
      refine ⟨_, run_bind_fail sent _, fun r' quota a same good => ?_⟩
      cases same
      exact absurd good success

theorem asking_asksOnly {P : Request → Prop} {q : Request} (own : P q)
    (read : Response → Except Fault γ) (make : Response → Option RateLimit → γ → α) :
    (c.asking q read make).AsksOnly P := by
  refine AsksOnly.bind ?_ fun r => ?_
  · rw [send]
    cases c.target? q with
    | none => exact .fail _
    | some target =>
      refine .ask own fun answer => ?_
      cases answer with
      | error f => exact .fail _
      | ok r =>
        by_cases success : r.isSuccess = true
        · simp only [success, ↓reduceIte]
          exact .done _
        · simp only [success, Bool.false_eq_true, ↓reduceIte]
          exact .fail _
  · rw [withQuota]
    cases quota? r with
    | none => exact .crash
    | some quota => exact asksOnly_ofExcept P _

theorem reply_asksOnly (c : Client) (codec : Codec α) (key : String) (e : Endpoint) :
    (c.reply codec key ⟨.get, e, [], none⟩).AsksOnly Request.IsGet := by
  rw [reply_eq]
  refine asking_asksOnly ?_ _ _
  rfl

theorem page_asks (c : Client) (codec : Codec α) (key : String) (e : Endpoint)
    (p : PageRequest) (more : List (String × String)) :
    (c.strictPage codec key e p more).AsksOnly (fun q => q = pageAsk e p more) ∧
    (c.page codec key e p more).AsksOnly (fun q => q = pageAsk e p more) := by
  have strict : (c.strictPage codec key e p more).AsksOnly (fun q => q = pageAsk e p more) := by
    rw [strictPage_asking]
    refine asking_asksOnly ?_ _ _
    rfl
  refine ⟨strict, strict.follow (fun f => ?_) .done⟩
  by_cases soft : f.isSoft = true
  · rw [if_pos soft]
    exact .done _
  · rw [if_neg soft]
    exact .fail f

theorem pageAsk_isGet (e : Endpoint) (p : PageRequest) (more : List (String × String)) :
    ∀ q, q = pageAsk e p more → q.IsGet := by
  rintro q rfl
  rfl

theorem strictPage_asksOnly (c : Client) (codec : Codec α) (key : String) (e : Endpoint)
    (p : PageRequest) (more : List (String × String)) :
    (c.strictPage codec key e p more).AsksOnly Request.IsGet :=
  (page_asks c codec key e p more).1.mono (pageAsk_isGet e p more)

theorem page_asksOnly (c : Client) (codec : Codec α) (key : String) (e : Endpoint)
    (p : PageRequest) (more : List (String × String)) :
    (c.page codec key e p more).AsksOnly Request.IsGet :=
  (page_asks c codec key e p more).2.mono (pageAsk_isGet e p more)

end Client

theorem asksOnly_op {P : Request → Prop} {p : Call α} (only : p.AsksOnly P) :
    p.op.AsksOnly P := only.mapFailure Fault.failure

theorem recordIdOp_asksOnly (P : Request → Prop) (id : ResourceId) :
    (recordIdOp id).AsksOnly P := asksOnly_op (asksOnly_ofExcept P _)

theorem requirePrincipal_asksOnly (P : Request → Prop) (principal : ResourceId)
    (expected action : String) : (requirePrincipal principal expected action).AsksOnly P := by
  rw [requirePrincipal]
  by_cases same : principal.resourceType = expected
  · rw [if_pos same]
    exact .done ()
  · rw [if_neg same]
    exact .fail _

theorem listing_asksOnly {P : Request → Prop} (resourceType : String)
    {fetch : PageRequest → Call (Page α)} (only : ∀ p, (fetch p).AsksOnly P) (image : α → β)
    (token : PageToken) : (listing resourceType fetch image token).AsksOnly P := by
  refine (asksOnly_ofExcept P _).bind fun stack => ?_
  refine (asksOnly_ofExcept P _).bind fun request => ?_
  exact (asksOnly_op (only request)).bind fun page => .done _

theorem scan_reads (c : Client) (groupId id : UInt64) (p : PageRequest) :
    (RequesterMembership.scan c groupId id p).AsksOnly Request.IsGet := by
  fun_induction RequesterMembership.scan c groupId id p with
  | case1 p ih =>
    refine AsksOnly.bind (Client.strictPage_asksOnly _ _ _ _ _ _) fun page => ?_
    split
    · exact .done _
    · split
      · exact .done _
      · rename_i next _
        split
        · rename_i ahead
          exact ih next ahead
        · exact .done _

end IdentitySync.Desk
