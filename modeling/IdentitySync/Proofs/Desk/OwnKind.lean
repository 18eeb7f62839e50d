import IdentitySync.Proofs.Desk.Visit
import IdentitySync.Proofs.Desk.WriteDiscipline

/-!
What changes of access write to. A write of a syncer stays on its own kind of object, but which
object that is follows from the number of the entitlement's resource alone: neither the resource's
type nor the slug is looked at. The entitlements that a syncer publishes itself have its own type
and slug.
-/
namespace IdentitySync.Desk
open Http Exchange

variable {α β δ : Type} {c : Client} {log : CallLog}

/-- Of reads and what follows them, only what follows writes. -/
theorem write_follows_reads {read : Op δ} {rest : δ → Op β} (request : δ → Request)
    (only : read.AsksOnly Request.IsGet) (asks : ∀ d, (rest d).AsksOnly fun q => q = request d)
    {o : Outcome Failure β} (ends : Ends (read >>= rest) log o) {x : Request × Answer}
    (hx : x ∈ log) (write : x.1.isWrite = true) :
    ∃ reads d, reads <+: log ∧ Ends read reads (.done d) ∧ x.1 = request d := by
  have notRead : ∀ {reads : CallLog} {o : Outcome Failure δ}, Ends read reads o → x ∉ reads := by
    intro reads o ends hx
    rw [Request.isWrite, only.log_all ends x hx] at write
    cases write
  rcases Ends.of_bind ends with ⟨reads, d, after, rfl, first, second⟩ | ⟨e, first, _⟩ | ⟨first, _⟩
  · rcases List.mem_append.mp hx with hx | hx
    · exact absurd hx (notRead first)
    · exact ⟨reads, d, List.prefix_append reads after, first, (asks d).log_all second x hx⟩
  · exact absurd hx (notRead first)
  · exact absurd hx (notRead first)

theorem unless_asksOnly {P : Request → Prop} (stands : Prop) [Decidable stands]
    (remarks : Annotations) {write : Op Annotations} (own : write.AsksOnly P) :
    (if stands then .done remarks else write).AsksOnly P := by
  by_cases there : stands
  · rw [if_pos there]
    exact .done _
  · rw [if_neg there]
    exact own

theorem Roster.write_asksOnly (r : Roster α β) (c : Client) (entries : List α) :
    (r.write c entries).AsksOnly fun q => q = r.put (r.body entries) := by
  refine AsksOnly.bind (asksOnly_op ?_) fun updated => .done _
  rw [Client.reply_eq]
  refine Client.asking_asksOnly ?_ _ _
  rfl

theorem Roster.change_writes (r : Roster α β) (k : Change) {o : Outcome Failure Annotations}
    (ends : Ends (r.change c k) log o) {x : Request × Answer} (hx : x ∈ log)
    (write : x.1.isWrite = true) : ∃ reads, reads <+: log ∧ r.Rewrites k reads x.1 := by
  obtain ⟨reads, record, before, read, same⟩ := write_follows_reads
    (fun record : Reply β => r.put (r.body (r.edit (r.entries record.data) k)))
    (asksOnly_op (Client.reply_asksOnly c _ _ _))
    (fun record => unless_asksOnly _ _ (r.write_asksOnly c _)) ends hx write
  refine ⟨reads, before, ?_⟩
  rw [Client.reply_eq] at read
  cases Client.asking_op_ends read with
  | given success known good => exact ⟨_, _, rfl, good, same, same ▸ r.put_sent _⟩

theorem RequesterMembership.change_writes (groupId : UInt64) (k : Change)
    {o : Outcome Failure Annotations} (ends : Ends (RequesterMembership.change c groupId k) log o)
    {x : Request × Answer} (hx : x ∈ log) (write : x.1.isWrite = true) :
    x.1 = memberChange groupId k := by
  have asks : ((c.acknowledge (memberChange groupId k)).op).AsksOnly
      fun q => q = memberChange groupId k := by
    rw [Client.acknowledge_eq]
    refine asksOnly_op (Client.asking_asksOnly ?_ _ _)
    rfl
  obtain ⟨_, _, _, _, same⟩ := write_follows_reads (fun _ => memberChange groupId k)
    (asksOnly_op (scan_reads c groupId k.id .first))
    (fun found => unless_asksOnly _ _ (asks.bind fun changed => .done _)) ends hx write
  exact same

namespace AccessKind

theorem change_writes (kind : AccessKind) (call : AccessCall) (m n : UInt64)
    {o : Outcome Failure Annotations} (ends : Ends (kind.change c call m n) log o)
    {x : Request × Answer} (hx : x ∈ log) (write : x.1.isWrite = true) :
    ∃ reads, reads <+: log ∧ kind.Edits call m n reads x.1 := by
  cases kind with
  | agentGroup => exact (groupRoster m).change_writes _ ends hx write
  | role => exact (roleRoster n).change_writes _ ends hx write
  | requesterGroup =>
    have same := RequesterMembership.change_writes m _ ends hx write
    exact ⟨[], List.nil_prefix, same, same ▸ memberChange_sent m _⟩

theorem op_writes (kind : AccessKind) (call : AccessCall) {o : Outcome Failure Annotations}
    (ends : Ends (call.op kind.syncer c) log o) {x : Request × Answer} (hx : x ∈ log)
    (write : x.1.isWrite = true) :
    call.principal.resourceType = kind.principalType ∧ ∃ m n, call.Numbered m n ∧
      ∃ reads, reads <+: log ∧ kind.Writes call m n reads x.1 := by
  obtain ⟨action, admitted⟩ := kind.op_eq c call
  rw [admitted] at ends
  by_cases own : call.principal.resourceType = kind.principalType
  · by_cases numbered : ∃ m n, call.Numbered m n
    · obtain ⟨m, n, named⟩ := numbered
      rw [AccessCall.admitted_numbered own named] at ends
      obtain ⟨reads, before, edits⟩ := kind.change_writes call m n ends hx write
      exact ⟨own, m, n, named, reads, before, Edits.writes edits⟩
    · have unnumbered : ∀ m n, ¬call.Numbered m n := fun m n named => numbered ⟨m, n, named⟩
      obtain ⟨message, refused⟩ : ∃ message, (call.admitted kind.principalType action fun m n =>
          kind.change c call m n) = .fail (.invalidData message) :=
        AccessCall.admitted_unnumbered own unnumbered
      rw [refused] at ends
      rw [ends.of_fail.1] at hx
      cases hx
  · rw [AccessCall.admitted_mismatch own] at ends
    rw [ends.of_fail.1] at hx
    cases hx

theorem grant_alike (kind : AccessKind) (c : Client) (principal : ResourceId) {e e' : Entitlement}
    {m : UInt64} (first : recordId e.resource.id = .ok m)
    (second : recordId e'.resource.id = .ok m) :
    kind.syncer.grant c principal e = kind.syncer.grant c principal e' := by
  cases kind <;> simp only [syncer, Syncer.grant, GroupMembership.grant, RoleAssignment.grant,
    RequesterMembership.grant, recordIdOp_ok first, recordIdOp_ok second]

theorem revoke_alike (kind : AccessKind) (c : Client) {g g' : Grant} {m : UInt64}
    (principal : g.principal = g'.principal) (first : recordId g.entitlement.resource.id = .ok m)
    (second : recordId g'.entitlement.resource.id = .ok m) :
    kind.syncer.revoke c g = kind.syncer.revoke c g' := by
  cases kind <;> simp only [syncer, Syncer.revoke, GroupMembership.revoke, RoleAssignment.revoke,
    RequesterMembership.revoke, recordIdOp_ok first, recordIdOp_ok second, principal]

def objectType : AccessKind → String
  | .agentGroup => "agent_group"
  | .role => "role"
  | .requesterGroup => "requester_group"

def slug : AccessKind → String
  | .agentGroup => "member"
  | .role => "assigned"
  | .requesterGroup => "member"

theorem entitlement_own (kind : AccessKind) {r : Resource} {e : Entitlement}
    (he : e ∈ (kind.syncer.entitlements r).items) : e.resource = r ∧ e.slug = kind.slug := by
  cases kind <;> (cases List.mem_singleton.mp he; exact ⟨rfl, rfl⟩)

end AccessKind

theorem listing_images {resourceType : String} {fetch : PageRequest → Call (Page α)}
    {image : α → β} {token : PageToken} {page : SyncPage β}
    (ends : Ends (listing resourceType fetch image token) log (.done page)) :
    ∃ items : List α, page.items = items.map image := by
  obtain ⟨stack, _, rest⟩ := Ends.of_bind_ok ends
  obtain ⟨request, _, rest⟩ := Ends.of_bind_ok rest
  obtain ⟨_, found, _, _, _, last⟩ := Ends.of_bind_done rest
  cases last
  exact ⟨found.items, rfl⟩

namespace AccessKind

theorem listed_own (kind : AccessKind) {token : PageToken} {page : SyncPage Resource}
    (ends : Ends (kind.syncer.list c token) log (.done page)) {r : Resource} (hr : r ∈ page.items) :
    ∃ n : UInt64, r.id = ⟨kind.objectType, toString n⟩ := by
  cases kind <;>
  · obtain ⟨items, images⟩ := listing_images ends
    rw [images] at hr
    obtain ⟨record, _, rfl⟩ := List.mem_map.mp hr
    exact ⟨record.id, congrArg _ (idText_eq record.id)⟩

theorem granted_new (kind : AccessKind) {r : Resource} {token : PageToken} {page : SyncPage Grant}
    (ends : Ends (kind.syncer.grants c r token) log (.done page)) {g : Grant}
    (hg : g ∈ page.items) : ∃ e ∈ (kind.syncer.entitlements r).items, ∃ (k : Syncer) (n : UInt64),
      g = Grant.new e ⟨k.resourceType.id, idText n⟩ := by
  cases kind with
  | agentGroup =>
    obtain ⟨_, groupId, _, _, _, rest⟩ := Ends.of_bind_done ends
    obtain ⟨_, group, _, _, _, last⟩ := Ends.of_bind_done rest
    cases last
    obtain ⟨n, _, rfl⟩ := List.mem_map.mp hg
    exact ⟨_, List.mem_singleton_self _, .agents, n, rfl⟩
  | role =>
    obtain ⟨_, id, _, _, _, rest⟩ := Ends.of_bind_done ends
    obtain ⟨cursor, _, rest⟩ := Ends.of_bind_ok rest
    cases cursor with
    | users page =>
      obtain ⟨_, found, _, _, _, last⟩ := Ends.of_bind_done rest
      cases last
      obtain ⟨a, _, rfl⟩ := List.mem_map.mp hg
      exact ⟨_, List.mem_singleton_self _, .agents, a.id, rfl⟩
    | groups page =>
      obtain ⟨_, found, _, _, _, last⟩ := Ends.of_bind_done rest
      cases last
      obtain ⟨a, _, rfl⟩ := List.mem_map.mp hg
      exact ⟨_, List.mem_singleton_self _, .agentGroups, a.id, rfl⟩
    | done =>
      cases rest
      cases hg
  | requesterGroup =>
    obtain ⟨_, groupId, _, _, _, rest⟩ := Ends.of_bind_done ends
    obtain ⟨items, images⟩ := listing_images rest
    rw [images] at hg
    obtain ⟨m, _, rfl⟩ := List.mem_map.mp hg
    exact ⟨_, List.mem_singleton_self _, .requesters, m.id, rfl⟩

theorem granted_own (kind : AccessKind) {r : Resource} {token : PageToken} {page : SyncPage Grant}
    (ends : Ends (kind.syncer.grants c r token) log (.done page)) {g : Grant}
    (hg : g ∈ page.items) : g.entitlement ∈ (kind.syncer.entitlements r).items := by
  obtain ⟨e, offered, _, _, rfl⟩ := kind.granted_new ends hg
  exact offered

end AccessKind

/-- Whatever is answered, a write is sent for principals of the right type only, and it changes the
    syncer's own kind of object for the numbers of resource and principal: the members of the group
    or the roles of the agent as they were read, or one membership of the requester group. Of an
    entitlement nothing but the number of its resource counts. Those that the syncer publishes for
    the resources it lists, which are those of the grants it lists, have its own type and slug. -/
theorem writes_stay_on_own_kind {σ : Type} (kind : AccessKind) (c : Client)
    (server : σ → Request → Answer × σ) (s : σ) :
    (∀ call : AccessCall, ∀ x ∈ (call.op kind.syncer c).log server s, x.1.isWrite = true →
      call.principal.resourceType = kind.principalType ∧ ∃ m n, call.Numbered m n ∧
        ∃ reads, reads <+: (call.op kind.syncer c).log server s ∧
          kind.Writes call m n reads x.1) ∧
    (∀ principal e e' m, recordId e.resource.id = .ok m → recordId e'.resource.id = .ok m →
      kind.syncer.grant c principal e = kind.syncer.grant c principal e') ∧
    (∀ g g' m, g.principal = g'.principal → recordId g.entitlement.resource.id = .ok m →
      recordId g'.entitlement.resource.id = .ok m →
        kind.syncer.revoke c g = kind.syncer.revoke c g') ∧
    ∀ token page, ((kind.syncer.list c token).run server s).1 = .done page → ∀ r ∈ page.items,
      (∃ n : UInt64, r.id = ⟨kind.objectType, toString n⟩) ∧
      (∀ e ∈ (kind.syncer.entitlements r).items, e.resource = r ∧ e.slug = kind.slug) ∧
      ∀ s' token' page', ((kind.syncer.grants c r token').run server s').1 = .done page' →
        ∀ g ∈ page'.items, g.entitlement ∈ (kind.syncer.entitlements r).items := by
  refine ⟨fun call x hx write => ?_, fun principal e e' m => kind.grant_alike c principal,
    fun g g' m => kind.revoke_alike c, fun token page listed r hr => ⟨?_, ?_, ?_⟩⟩
  · exact kind.op_writes call (ends_of_run server _ s) hx write
  · exact kind.listed_own (listed ▸ ends_of_run server _ s) hr
  · exact fun e he => kind.entitlement_own he
  · intro s' token' page' listed g hg
    exact kind.granted_own (listed ▸ ends_of_run server _ s') hg

def bareAgent : Response :=
  ⟨200, [], .ok "\x7b\"agent\":\x7b\"id\":12\x7d,\"roles\":[\x7b\"id\":7\x7d]\x7d", midnight⟩

def opsGroup : Resource := AgentGroup.resource ⟨7, "Ops", none, [], none⟩

def opsRole : Resource := Role.resource ⟨7, "Ops", none, none⟩

theorem ops_role_assigned :
    let call := AccessCall.grant ⟨"agent", "12"⟩ (roleEntitlement opsRole)
    let log := (call.op .roles acme).log (constantServer bareAgent) ()
    log.map (fun x => acme.target? x.1) =
      [some "/api/v2/agents/12", some "/api/v2/agents/12"] ∧
    (∃ x ∈ log, x.1.isWrite = true ∧ ∃ m n, call.Numbered m n ∧
      ∃ reads, reads <+: log ∧ AccessKind.role.Writes call m n reads x.1) ∧
    Syncer.roles.grant acme (agentPrincipal 12) (roleEntitlement opsRole) =
      Syncer.roles.grant acme (agentPrincipal 12) (groupEntitlement opsGroup) := by
  intro call log
  obtain ⟨writes, alike, _⟩ :=
    writes_stay_on_own_kind .role acme (constantServer bareAgent) ()
  have sent : log.any (fun x => x.1.isWrite) = true := by decide +kernel
  obtain ⟨x, hx, write⟩ := List.any_eq_true.mp sent
  obtain ⟨_, written⟩ := writes call x hx write
  exact ⟨by decide +kernel, ⟨x, hx, write, written⟩,
    alike _ _ _ 7 (recordId_idText roleId 7) (recordId_idText agentGroupId 7)⟩

/-- A role is assigned for the entitlement to be a member of a group. -/
theorem group_entitlement_assigns_role :
    let call := AccessCall.grant ⟨"agent", "12"⟩ (groupEntitlement opsGroup)
    ((call.op .roles acme).log (constantServer bareAgent) ()).map (fun x => x.1.sent) =
      [⟨"GET", "agents/12", [], none⟩, ⟨"PUT", "agents/12", [], some ("\x7b\"roles\":[" ++
        "\x7b\"role_id\":7,\"assignment_scope\":\"entire_helpdesk\"\x7d]\x7d")⟩] ∧
    call.entitlement.resource.id.resourceType ≠ Syncer.roles.resourceType.id ∧
    call.entitlement.slug ≠ AccessKind.role.slug := by
  decide +kernel

end IdentitySync.Desk
