import IdentitySync.Proofs.Desk.AccessCall
import IdentitySync.Proofs.Desk.CallLog

/-!
Changes of access read first and write last. Whatever is answered, a call sends nothing before it is
admitted, then reads, and after reads that all went well at most one write. A read that fails is the
last request, also one that came too late, which only listings take for an empty page.
-/
namespace IdentitySync.Desk
open Http Exchange

/-- The moments that the answers name lie within the calendar. -/
def Calm (log : CallLog) : Prop := ∀ x ∈ log, ∀ r, x.2 = .ok r → (quota? r).isSome = true

variable {α β γ δ ε : Type}

def ReadsWell (read : Response → Except Fault γ) (a : Answer) : Prop :=
  ∃ r data, a = .ok r ∧ (200 ≤ r.status ∧ r.status < 300) ∧ read r = .ok data

/-- Reading goes on while the answers are good: at its end all of them are, at a failure all but the
    last. It ends without a result only when an answer names a moment beyond the calendar. -/
def Reading (Well : Answer → Prop) (log : CallLog) : Outcome ε α → Prop
  | .done _ => ∀ x ∈ log, Well x.2
  | .fail _ => ∀ x ∈ log.dropLast, Well x.2
  | .crash => ¬Calm log

section
variable {Well : Answer → Prop}

theorem Reading.after {first : CallLog} (well : ∀ x ∈ first, Well x.2) {log : CallLog}
    {o : Outcome ε α} (h : Reading Well log o) : Reading Well (first ++ log) o := by
  cases o with
  | done a =>
    intro x hx
    rcases List.mem_append.mp hx with hx | hx
    · exact well x hx
    · exact h x hx
  | fail e =>
    intro x hx
    cases log with
    | nil =>
      rw [List.append_nil] at hx
      exact well x ((List.dropLast_sublist first).mem hx)
    | cons y rest =>
      rw [List.dropLast_append_of_ne_nil (List.cons_ne_nil y rest)] at hx
      rcases List.mem_append.mp hx with hx | hx
      · exact well x hx
      · exact h x hx
  | crash => exact fun calm => h fun x hx => calm x (List.mem_append_right first hx)

theorem reading_of_answered {q : Request} {report : Fault → ε} {read : Response → Except Fault γ}
    {make : Response → Option RateLimit → γ → α} {log : CallLog} {o : Outcome ε α}
    (h : Answered q report read make log o) : Reading (ReadsWell read) log o := by
  cases h with
  | unsent => exact fun x hx => absurd hx List.not_mem_nil
  | lost f => exact fun x hx => absurd hx List.not_mem_nil
  | refused refusal => exact fun x hx => absurd hx List.not_mem_nil
  | beyond success beyond =>
    intro calm
    have within := calm _ List.mem_cons_self _ rfl
    rw [beyond] at within
    cases within
  | unreadable success bad => exact fun x hx => absurd hx List.not_mem_nil
  | given success known good =>
    intro x hx
    rw [List.mem_singleton] at hx
    subst hx
    exact ⟨_, _, rfl, isSuccess_iff.mp success, good⟩

theorem reading_op {p : Call α} (reads : ∀ log o, Ends p log o → Reading Well log o) {log : CallLog}
    {o : Outcome Failure α} (ends : Ends p.op log o) : Reading Well log o := by
  rcases Ends.of_mapFailure ends with ⟨a, own, rfl⟩ | ⟨e, own, rfl⟩ | ⟨own, rfl⟩
  · exact reads _ _ own
  · exact reads _ _ own
  · exact reads _ _ own

theorem scan_reading (c : Client) (groupId id : UInt64) (p : PageRequest) (log : CallLog)
    (o : Outcome Fault (Bool × Option RateLimit))
    (ends : Ends (RequesterMembership.scan c groupId id p) log o) :
    Reading (ReadsWell (decodeBody GroupMember.codec.list "requesters")) log o := by
  -- Each round puts its one answer before those of the rest of the scan, and `after` asks of that
  -- answer that it is good; a round that does not go on is itself the last.
  fun_induction RequesterMembership.scan c groupId id p generalizing log with
  | case1 p ih =>
    have one : ∀ {log : CallLog} {o : Outcome Fault (Page GroupMember)},
        Ends (c.membersStrict groupId p) log o →
          Reading (ReadsWell (decodeBody GroupMember.codec.list "requesters")) log o :=
      fun ends => reading_of_answered (Client.asking_ends ends)
    rcases Ends.of_bind ends with ⟨before, page, after, rfl, first, rest⟩ | ⟨e, first, rfl⟩ |
      ⟨first, rfl⟩
    · refine Reading.after (one first) ?_
      have ended : ∀ {found : Bool × Option RateLimit}, Ends (.done found) after o →
          Reading (ReadsWell (decodeBody GroupMember.codec.list "requesters")) after o := by
        intro found stops
        cases stops
        exact fun x hx => absurd hx List.not_mem_nil
      by_cases present : (page.items.any fun m => m.id = id) = true
      · rw [if_pos present] at rest
        exact ended rest
      · rw [if_neg present] at rest
        cases follows : page.next with
        | none =>
          rw [follows] at rest
          exact ended rest
        | some next =>
          rw [follows] at rest
          by_cases ahead : p.page < next
          · simp only [ahead, ↓reduceDIte] at rest
            exact ih next ahead after rest
          · simp only [ahead, ↓reduceDIte] at rest
            exact ended rest
    · exact one first
    · exact one first

/-- What a change of access read and wrote, in this order, and how it ended. -/
structure Disciplined (Well : Answer → Prop) (Writes : CallLog → Request → Prop)
    (remark : Annotation) (reads writes : CallLog) (o : Outcome Failure Annotations) : Prop where
  reading : ∀ x ∈ reads, x.1.method = .get
  once : writes = [] ∨ ∃ q a, writes = [(q, a)] ∧ q.method ≠ .get ∧ (∀ x ∈ reads, Well x.2) ∧
    Writes reads q
  broken : ∀ x ∈ reads, ¬Well x.2 →
    (∃ before, reads = before ++ [x] ∧ ∀ y ∈ before, Well y.2) ∧ writes = [] ∧ ∃ f, o = .fail f
  told : ∀ remarks, o = .done remarks → (remark ∈ remarks ↔ writes = [])

variable {c : Client} {Writes : CallLog → Request → Prop} {remark : Annotation}

theorem disciplined_unread {log : CallLog} (gets : ∀ x ∈ log, x.1.IsGet) {f : Failure}
    (well : ∀ x ∈ log.dropLast, Well x.2) :
    Disciplined Well Writes remark log [] (.fail f) := by
  refine ⟨gets, .inl rfl, fun x hx bad => ⟨⟨log.dropLast, ?_, well⟩, rfl, f, rfl⟩, ?_⟩
  · have some : log ≠ [] := List.ne_nil_of_mem hx
    have parts := List.dropLast_append_getLast some
    rw [← parts] at hx
    rcases List.mem_append.mp hx with earlier | last
    · exact absurd (well x earlier) bad
    · rw [List.mem_singleton] at last
      rw [last, parts]
  · intro remarks same
    cases same

theorem disciplined (k : Change) {read : Op δ} (stands : δ → Prop) [DecidablePred stands]
    (quota : δ → Option RateLimit) (request : δ → Request) (parse : Response → Except Fault γ)
    (make : Response → Option RateLimit → γ → Reply β)
    (only : read.AsksOnly Request.IsGet) (reading : ∀ log o, Ends read log o → Reading Well log o)
    (writes : ∀ d, (request d).method ≠ .get)
    (names : ∀ log d, Ends read log (.done d) → Writes log (request d)) {log : CallLog}
    {o : Outcome Failure Annotations}
    (ends : Ends (read >>= fun d =>
      if stands d then .done (remarked (quota d) k.remark)
      else (c.asking (request d) parse make).op >>= fun written =>
        .done (Annotations.withRateLimit [] written.rateLimit)) log o) (calm : Calm log) :
    o ≠ .crash ∧ ∃ reads writes, log = reads ++ writes ∧
      Disciplined Well Writes k.remark reads writes o := by
  rcases Ends.of_bind ends with ⟨reads, d, rest, rfl, first, second⟩ | ⟨f, first, rfl⟩ |
    ⟨first, rfl⟩
  · have gets := only.log_all first
    have well := reading _ _ first
    have noBad : ∀ x ∈ reads, ¬Well x.2 →
        (∃ before, reads = before ++ [x] ∧ ∀ y ∈ before, Well y.2) ∧ rest = [] ∧
          ∃ f, o = .fail f := fun x hx bad => absurd (well x hx) bad
    by_cases there : stands d
    · rw [if_pos there] at second
      cases second
      refine ⟨nofun, reads, [], rfl, gets, .inl rfl, noBad, ?_⟩
      intro remarks same
      cases same
      exact ⟨fun _ => rfl, fun _ => Roster.remark_mem_remarked _ _⟩
    · rw [if_neg there] at second
      have once : ∀ {a}, rest = [(request d, a)] → rest = [] ∨ ∃ q a, rest = [(q, a)] ∧
          q.method ≠ .get ∧ (∀ x ∈ reads, Well x.2) ∧ Writes reads q :=
        fun {a} same => .inr ⟨request d, a, same, writes d, well, names reads d first⟩
      rcases Ends.of_bind second with ⟨before, written, after, rfl, sent, ended⟩ | ⟨f, sent, rfl⟩ |
        ⟨sent, rfl⟩
      · cases ended
        cases Client.asking_op_ends sent with
        | given success known good =>
          refine ⟨nofun, reads, _, rfl, gets, once rfl, noBad, ?_⟩
          intro remarks same
          cases same
          exact ⟨fun told => absurd told (Roster.no_remark k _), nofun⟩
      · refine ⟨nofun, reads, rest, rfl, gets, ?_, noBad, nofun⟩
        cases Client.asking_op_ends sent with
        | unsent => exact .inl rfl
        | lost f => exact once rfl
        | refused refusal => exact once rfl
        | unreadable success bad => exact once rfl
      · have whole := reading_of_answered (Client.asking_op_ends sent)
        exact absurd (fun x hx => calm x (List.mem_append_right reads hx)) whole
  · have well := reading _ _ first
    exact ⟨nofun, log, [], (List.append_nil log).symm,
      disciplined_unread (only.log_all first) well⟩
  · exact absurd calm (reading _ _ first)

end

variable {c : Client}

def Roster.Rewrites (r : Roster α β) (k : Change) (reads : CallLog) (q : Request) : Prop :=
  ∃ answer record, reads = [(r.get, .ok answer)] ∧
    decodeBody r.codec r.envelope answer = .ok record ∧
    q = r.put (r.body (r.edit (r.entries record) k)) ∧
    q.sent = r.writing (r.edit (r.entries record) k)

theorem Roster.change_disciplined (r : Roster α β) (k : Change) {log : CallLog}
    {o : Outcome Failure Annotations} (ends : Ends (r.change c k) log o) (calm : Calm log) :
    o ≠ .crash ∧ ∃ reads writes, log = reads ++ writes ∧
      Disciplined (ReadsWell (decodeBody r.codec r.envelope)) (r.Rewrites k) k.remark reads
        writes o := by
  have one : ∀ {log : CallLog} {o : Outcome Failure (Reply β)},
      Ends (c.reply r.codec r.envelope r.get).op log o →
        Answered r.get Fault.failure (decodeBody r.codec r.envelope)
          (fun _ quota data => ⟨data, quota⟩) log o := Client.asking_op_ends
  refine disciplined k (fun record => r.Stands (r.entries record.data) k) Reply.rateLimit
    (fun record => r.put (r.body (r.edit (r.entries record.data) k)))
    (decodeBody r.codec r.envelope) (fun _ quota data => (⟨data, quota⟩ : Reply β)) ?_ ?_ ?_ ?_ ends
    calm
  · exact asksOnly_op (Client.reply_asksOnly c _ _ _)
  · exact fun log o ends => reading_of_answered (one ends)
  · exact fun record => nofun
  · intro log record ends
    cases one ends with
    | given success known good => exact ⟨_, _, rfl, good, rfl, r.put_sent _⟩

theorem RequesterMembership.change_disciplined (groupId : UInt64) (k : Change) {log : CallLog}
    {o : Outcome Failure Annotations} (ends : Ends (RequesterMembership.change c groupId k) log o)
    (calm : Calm log) :
    o ≠ .crash ∧ ∃ reads writes, log = reads ++ writes ∧
      Disciplined (ReadsWell (decodeBody GroupMember.codec.list "requesters"))
        (fun _ q => q = memberChange groupId k ∧ q.sent = memberChanging groupId k) k.remark reads
        writes o := by
  refine disciplined k (fun found : Bool × Option RateLimit => found.1 = k.grants) Prod.snd
    (fun _ => memberChange groupId k) (fun _ => .ok ())
    (fun _ quota _ => (⟨(), quota⟩ : Reply Unit)) ?_ ?_ ?_ ?_ ends calm
  · exact asksOnly_op (scan_reads c groupId k.id .first)
  · exact fun log o => reading_op (scan_reading c groupId k.id .first)
  · intro found
    cases k <;> nofun
  · exact fun log found ends => ⟨rfl, memberChange_sent groupId k⟩

namespace AccessKind

def Informs : AccessKind → Answer → Prop
  | .agentGroup => ReadsWell (decodeBody AgentGroup.codec "group")
  | .role => ReadsWell (decodeBody Agent.codec "agent")
  | .requesterGroup => ReadsWell (decodeBody GroupMember.codec.list "requesters")

/-- What a call writes, from the numbers of resource and principal: the record edited for the one
    id, or the one member added or removed. -/
def Edits (call : AccessCall) (resource principal : UInt64) :
    AccessKind → CallLog → Request → Prop
  | .agentGroup => (groupRoster resource).Rewrites (call.change principal)
  | .role => (roleRoster principal).Rewrites (call.change resource)
  | .requesterGroup => fun _ q => q = memberChange resource (call.change principal) ∧
    q.sent = memberChanging resource (call.change principal)

def writtenPath (resource principal : UInt64) : AccessKind → String
  | .agentGroup => "groups/" ++ toString resource
  | .role => "agents/" ++ toString principal
  | .requesterGroup =>
    "requester_groups/" ++ toString resource ++ "/members/" ++ toString principal

structure Writes (kind : AccessKind) (call : AccessCall) (resource principal : UInt64)
    (reads : CallLog) (q : Request) : Prop where
  edits : kind.Edits call resource principal reads q
  path : q.sent.path = kind.writtenPath resource principal

theorem Edits.writes {kind : AccessKind} {call : AccessCall} {m n : UInt64} {reads : CallLog}
    {q : Request} (edits : kind.Edits call m n reads q) : kind.Writes call m n reads q := by
  refine ⟨edits, ?_⟩
  cases kind with
  | agentGroup =>
    obtain ⟨_, _, _, _, _, sent⟩ := edits
    rw [sent]
    rfl
  | role =>
    obtain ⟨_, _, _, _, _, sent⟩ := edits
    rw [sent]
    rfl
  | requesterGroup =>
    rw [edits.2]
    cases call <;> rfl

theorem change_disciplined (kind : AccessKind) (call : AccessCall) (m n : UInt64) {log : CallLog}
    {o : Outcome Failure Annotations} (ends : Ends (kind.change c call m n) log o)
    (calm : Calm log) :
    o ≠ .crash ∧ ∃ reads writes, log = reads ++ writes ∧
      Disciplined kind.Informs (kind.Edits call m n) call.remark reads writes o := by
  cases kind with
  | agentGroup =>
    rw [← call.change_remark n]
    exact (groupRoster m).change_disciplined (call.change n) ends calm
  | role =>
    rw [← call.change_remark m]
    exact (roleRoster n).change_disciplined (call.change m) ends calm
  | requesterGroup =>
    rw [← call.change_remark n]
    exact RequesterMembership.change_disciplined m (call.change n) ends calm

/-- What all calls on a kind of access keep to, in whatever way they end. -/
structure Keeps (kind : AccessKind) (call : AccessCall) (log : CallLog)
    (o : Outcome Failure Annotations) : Prop where
  mismatch : call.principal.resourceType ≠ kind.principalType → log = [] ∧ ∃ action, o =
    .fail (.principalMismatch connectorName kind.principalType call.principal.resourceType action)
  unnumbered : call.principal.resourceType = kind.principalType → (∀ m n, ¬call.Numbered m n) →
    log = [] ∧ ∃ message, o = .fail (.invalidData message)
  ends : o ≠ .crash
  course : ∃ reads writes, log = reads ++ writes ∧
    Disciplined kind.Informs
      (fun reads q => ∃ m n, call.Numbered m n ∧ kind.Writes call m n reads q) call.remark reads
      writes o

theorem op_keeps (kind : AccessKind) (call : AccessCall) {log : CallLog}
    {o : Outcome Failure Annotations} (ends : Ends (call.op kind.syncer c) log o)
    (calm : Calm log) : kind.Keeps call log o := by
  obtain ⟨action, admitted⟩ := kind.op_eq c call
  rw [admitted] at ends
  by_cases own : call.principal.resourceType = kind.principalType
  · by_cases numbered : ∃ m n, call.Numbered m n
    · obtain ⟨m, n, named⟩ := numbered
      rw [AccessCall.admitted_numbered own named] at ends
      obtain ⟨noCrash, reads, writes, parts, course⟩ := kind.change_disciplined call m n ends calm
      refine ⟨fun other => absurd own other, fun _ none => absurd named (none m n), noCrash, reads,
        writes, parts, course.reading, ?_, course.broken, course.told⟩
      rcases course.once with none | ⟨q, a, one, write, well, asks⟩
      · exact .inl none
      · exact .inr ⟨q, a, one, write, well, m, n, named, Edits.writes asks⟩
    · have unnumbered : ∀ m n, ¬call.Numbered m n := fun m n named => numbered ⟨m, n, named⟩
      obtain ⟨message, refused⟩ : ∃ message, (call.admitted kind.principalType action fun m n =>
          kind.change c call m n) = .fail (.invalidData message) :=
        AccessCall.admitted_unnumbered own unnumbered
      rw [refused] at ends
      obtain ⟨rfl, rfl⟩ := ends.of_fail
      exact ⟨fun other => absurd own other, fun _ _ => ⟨rfl, message, rfl⟩, nofun, [], [], rfl,
        disciplined_unread (List.forall_mem_nil _) (List.forall_mem_nil _)⟩
  · rw [AccessCall.admitted_mismatch own] at ends
    obtain ⟨rfl, rfl⟩ := ends.of_fail
    exact ⟨fun _ => ⟨rfl, action, rfl⟩, fun same => absurd same own, nofun, [], [], rfl,
      disciplined_unread (List.forall_mem_nil _) (List.forall_mem_nil _)⟩

end AccessKind

/-- Whatever is answered, a change of access is refused before anything is sent if its principal has
    another type or one of its ids is no number. Else it sends reads and then, if all of them went
    well, at most one write, of the numbers that its ids stand for; a read that goes wrong is the
    last request and the failure; and a result has the remark exactly when nothing was written. -/
theorem changes_write_last_and_once {σ : Type} (kind : AccessKind) (c : Client) (call : AccessCall)
    (server : σ → Request → Answer × σ) (s : σ)
    (calm : Calm ((call.op kind.syncer c).log server s)) :
    kind.Keeps call ((call.op kind.syncer c).log server s)
      ((call.op kind.syncer c).run server s).1 :=
  kind.op_keeps call (ends_of_run server _ s) calm

def annJoins : AccessCall :=
  .grant ⟨"requester", "12"⟩
    (requesterGroupEntitlement (RequesterGroup.resource ⟨7, "Visitors", none, none⟩))

def emptyGroup : Response := ⟨200, [], .ok "\x7b\"requesters\":[]\x7d", midnight⟩

theorem ann_joins_with_one_write :
    let call := annJoins.op .requesterGroups acme
    let server := constantServer emptyGroup
    (call.log server ()).map (fun x => (x.1.method.name, acme.target? x.1)) =
        [("GET", some "/api/v2/requester_groups/7/members?page=1&per_page=100"),
          ("POST", some "/api/v2/requester_groups/7/members/12")] ∧
      (call.run server ()).1 ≠ .crash ∧
      ∀ remarks, (call.run server ()).1 = .done remarks → .grantAlreadyExists ∉ remarks := by
  intro call server
  have asked : (call.log server ()).map (fun x => x.1.method) = [.get, .post] := by decide +kernel
  have sent : (call.log server ()).map (fun x => (x.1.method.name, acme.target? x.1)) =
      [("GET", some "/api/v2/requester_groups/7/members?page=1&per_page=100"),
        ("POST", some "/api/v2/requester_groups/7/members/12")] := by
    decide +kernel
  have calm : Calm (call.log server ()) := by
    intro x hx r answered
    obtain ⟨_, same⟩ := answer_of_log hx
    rw [answered] at same
    cases same
    decide +kernel
  have keeps := changes_write_last_and_once .requesterGroup acme annJoins server () calm
  refine ⟨sent, keeps.ends, fun remarks done remarked => ?_⟩
  obtain ⟨reads, writes, parts, course⟩ := keeps.course
  have unwritten : writes = [] := (course.told remarks done).mp remarked
  have post : Method.post ∈ (call.log server ()).map fun x => x.1.method := by
    rw [asked]
    exact List.mem_cons_of_mem _ List.mem_cons_self
  obtain ⟨x, hx, method⟩ := List.mem_map.mp post
  have read : x ∈ reads := by
    have whole : x ∈ reads ++ writes := parts ▸ hx
    rwa [unwritten, List.append_nil] at whole
  rw [course.reading x read] at method
  cases method

/-- A page of members that comes too late ends the change. -/
example : ((annJoins.op .requesterGroups acme).log
    (constantServer ⟨408, [], .ok "", midnight⟩) ()).map (fun x => x.1.method) = [.get] := by
  decide +kernel

end IdentitySync.Desk
