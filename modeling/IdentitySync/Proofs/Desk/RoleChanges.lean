import IdentitySync.Proofs.Desk.RacingChanges
import IdentitySync.Proofs.Desk.RoleScan

/-!
Sequences of changes to the roles of agents, judged by a scan. A call writes an agent's record, a
scan reads the listing of all agents. Each call writes exactly the change that it was asked for, or
nothing, and the scan afterwards finds every agent whose last call for the role was a grant.
-/
namespace IdentitySync.Desk
open Http Client

/-- A server that stores the roles of agents. For the staff it reads and writes one agent's roles as
    a store does and leaves those of others alone; its listing of all agents, read page by page,
    shows each with the roles that it has, and reading changes nothing of the listings. -/
structure RoleDesk (c : Client) (server : σ → Request → Answer × σ) (staff : UInt64 → Prop)
    (held : σ → UInt64 → List AgentRole) (agents : σ → UInt32 → Paged Agent)
    (groups : σ → UInt32 → Paged AgentGroup) : Prop where
  stores : ∀ agent, staff agent → (roleRoster agent).IsStore c server fun s => held s agent
  apart : ∀ agent other, staff agent → other ≠ agent → ∀ q, q.endpoint = .agent agent →
    ∀ s, held (server s q).2 other = held s other
  agentPages : ServesListing c server Agent.codec "agents" .agents agents
  groupPages : ServesListing c server AgentGroup.codec "groups" .groups groups
  shown : ∀ s size, ∀ a ∈ (agents s size).records, a.roles = held s a.id
  kept : ∀ s e p, e = .agents ∨ e = .groups →
    agents (server s (pageGet e p)).2 = agents s ∧ groups (server s (pageGet e p)).2 = groups s

abbrev StaffCall := (agent : UInt64) × RoleCall agent

def changesFor (agent : UInt64) (calls : List StaffCall) : List Change :=
  (calls.filter fun k => k.1 = agent).map fun k => k.2.change

/-- Whether an agent with these roles holds one after these changes: the last one to it decides. -/
def heldAfter (before : List AgentRole) (ks : List Change) (role : UInt64) : Bool :=
  match Change.last? ks role with
  | some k => k.grants
  | none => before.any fun r => r.roleId = role

/-- What a change leaves of an agent's assignments. A role that is granted in whatever scope stays
    as it is, a new one comes last, for the entire help desk and for no groups in particular. -/
def assignmentsAfter (roles : List AgentRole) : Change → List AgentRole
  | .grant role =>
    if roles.any fun r => r.roleId = role then roles
    else roles ++ [⟨role, some "entire_helpdesk", none⟩]
  | .revoke role => roles.filter fun r => r.roleId ≠ role

theorem any_role_iff (agent : UInt64) (roles : List AgentRole) (role : UInt64) :
    (roles.any fun r => r.roleId = role) = true ↔ role ∈ (roleRoster agent).ids roles := by
  simp [Roster.ids, roleRoster]

theorem apply_assignments (agent : UInt64) (roles : List AgentRole) (k : Change) :
    (roleRoster agent).apply roles k = assignmentsAfter roles k := by
  rw [Roster.apply]
  cases k with
  | grant role =>
    refine if_congr ?_ rfl rfl
    rw [Roster.stands_grant, any_role_iff agent]
  | revoke role =>
    have kept : (roles.filter fun r => r.roleId ≠ role) =
        (roleRoster agent).edit roles (.revoke role) := by
      refine List.filter_congr fun r _ => ?_
      by_cases own : r.roleId = role <;> simp [roleRoster, own]
    rw [assignmentsAfter, kept]
    split
    · rename_i stands
      rw [Roster.stands_revoke] at stands
      refine (List.filter_eq_self.mpr fun r present => ?_).symm
      rw [bne_iff_ne]
      exact fun own => stands (own ▸ List.mem_map_of_mem present)
    · rfl

variable {σ : Type} {c : Client} {server : σ → Request → Answer × σ} {staff : UInt64 → Prop}
  {held : σ → UInt64 → List AgentRole} {agents : σ → UInt32 → Paged Agent}
  {groups : σ → UInt32 → Paged AgentGroup}

theorem role_call_visit (desk : RoleDesk c server staff held agents groups) {agent : UInt64}
    (ofStaff : staff agent) (k : RoleCall agent) (s : σ) :
    (roleRoster agent).Changes (held s agent) k.change (visit server (k.op c) s).1
      (held (visit server (k.op c) s).2 agent) ∧
    ∀ other, other ≠ agent → held (visit server (k.op c) s).2 other = held s other := by
  have changes := Roster.change_visit (desk.stores agent ofStaff) k.change s
  rw [← k.op_eq_change] at changes
  refine ⟨changes, fun other apart => ?_⟩
  refine visit_keeps (fun s => held s other) fun q asked => ?_
  refine desk.apart agent other ofStaff apart q ?_
  obtain ⟨_, _, course⟩ := changes.course
  split at course
  · rw [course.1, List.mem_singleton] at asked
    rw [asked]
    rfl
  · rw [course.1] at asked
    rcases List.mem_cons.mp asked with rfl | asked
    · rfl
    · rw [List.mem_singleton] at asked
      rw [asked]
      rfl

theorem held_session (desk : RoleDesk c server staff held agents groups) (agent : UInt64)
    (calls : List StaffCall) (ofStaff : ∀ k ∈ calls, staff k.1) (s : σ) :
    held (session server (calls.map fun k => k.2.op c) s) agent =
      (changesFor agent calls).foldl (roleRoster agent).apply (held s agent) := by
  induction calls generalizing s with
  | nil => rfl
  | cons k calls ih =>
    obtain ⟨changes, others⟩ := role_call_visit desk (ofStaff k List.mem_cons_self) k.2 s
    have rest := ih (fun k' hk => ofStaff k' (List.mem_cons_of_mem _ hk))
      (visit server (k.2.op c) s).2
    simp only [List.map_cons, session, List.foldl_cons] at rest ⊢
    rw [rest]
    by_cases own : k.1 = agent
    · subst own
      have first : changesFor k.1 (k :: calls) = k.2.change :: changesFor k.1 calls := by
        simp [changesFor]
      rw [first, List.foldl_cons, changes.apply]
    · have first : changesFor agent (k :: calls) = changesFor agent calls := by
        simp [changesFor, own]
      rw [first, others agent (Ne.symm own)]

namespace RoleCursor

def On (agentPages groupPages : List UInt32) : RoleCursor → Prop
  | .users page => max page 1 ∈ agentPages
  | .groups page => max page 1 ∈ groupPages
  | .done => True

theorem after_on {agentList : Paged Agent} {groupList : Paged AgentGroup} {cursor : RoleCursor}
    (on : cursor.On agentList.pages groupList.pages) :
    (cursor.after agentList.next groupList.next).On agentList.pages groupList.pages := by
  cases cursor with
  | users page =>
    cases follows : agentList.next (max page 1) with
    | none =>
      rw [after, follows]
      exact groupList.chain.first_mem
    | some n =>
      rw [after, follows]
      exact agentList.chain.next_mem _ on n follows
  | groups page =>
    cases follows : groupList.next (max page 1) with
    | none =>
      rw [after, follows]
      exact trivial
    | some n =>
      rw [after, follows]
      exact groupList.chain.next_mem _ on n follows
  | done => exact trivial

end RoleCursor

theorem VisitsStop.listings {role : Resource} {id : UInt64} {agents : UInt32 → List Agent}
    {groups : UInt32 → List AgentGroup} {nextGroups : UInt32 → Option UInt32} {stop : RoleCursor}
    {size : UInt32} {v : Visit (SyncPage Grant)}
    (seen : VisitsStop role id agents groups nextGroups stop size v) :
    ∀ q ∈ v.asked, ∃ e p, q = pageGet e p ∧ (e = .agents ∨ e = .groups) := by
  intro q asked
  cases stop with
  | users page =>
    rw [seen.1, List.mem_singleton] at asked
    exact ⟨_, _, asked, .inl rfl⟩
  | groups page =>
    rw [seen.1, List.mem_singleton] at asked
    exact ⟨_, _, asked, .inr rfl⟩
  | done =>
    rw [seen.1] at asked
    cases asked

/-- A scan with sizes that cut the listings alike finds whoever holds the role on them. -/
theorem role_scan (desk : RoleDesk c server staff held agents groups) {role : Resource}
    {id : UInt64} (numbered : recordId role.id = .ok id) {s : σ} {agentList : Paged Agent}
    {groupList : Paged AgentGroup} (sizes : List UInt32)
    (alike : ∀ size ∈ sizes, agents s size = agentList ∧ groups s size = groupList)
    (enough : agentList.pages.length + groupList.pages.length ≤ sizes.length) :
    (walk server (Syncer.roles.grants c role) sizes "" s).flatMap Visit.items =
      agentGrants role id agentList.records ++ groupGrants role id groupList.records := by
  have sees : ∀ token cursor, RoleCursor.PointsAt token cursor ∧
        cursor.On agentList.pages groupList.pages →
      ∀ size, agents s size = agentList ∧ groups s size = groupList →
      ∀ s', agents s' = agents s ∧ groups s' = groups s →
        Sees (fun token cursor => RoleCursor.PointsAt token cursor ∧
            cursor.On agentList.pages groupList.pages)
          (VisitsStop role id agentList.items groupList.items groupList.next)
          (fun n cursor => cursor.stopsFrom agentList.next groupList.next n) cursor size
          (visit server (Syncer.roles.grants c role ⟨token, size⟩) s').1 ∧
        agents (visit server (Syncer.roles.grants c role ⟨token, size⟩) s').2 = agents s ∧
        groups (visit server (Syncer.roles.grants c role ⟨token, size⟩) s').2 = groups s := by
    rintro token cursor ⟨points, on⟩ size ⟨cutAgents, cutGroups⟩ s' ⟨sameAgents, sameGroups⟩
    have served : cursor.Served server agentList.items groupList.items agentList.next
        groupList.next size s' := by
      cases cursor with
      | users page => exact desk.agentPages.answer (by rw [sameAgents, cutAgents]) on
      | groups page => exact desk.groupPages.answer (by rw [sameGroups, cutGroups]) on
      | done => exact trivial
    obtain ⟨asked, p, s'', first, goesOn, own⟩ := scan_step numbered desk.agentPages.reached
      desk.groupPages.reached points.unfinished points.place served
    have visited : visit server (Syncer.roles.grants c role ⟨token, size⟩) s' =
      (⟨asked, .done p⟩, s'') := first
    have reads : ∀ q ∈ (visit server (Syncer.roles.grants c role ⟨token, size⟩) s').1.asked,
        ∀ s, agents (server s q).2 = agents s ∧ groups (server s q).2 = groups s := by
      rw [visited]
      intro q hq s
      obtain ⟨e, p, rfl, listing⟩ := own.listings q hq
      exact desk.kept s e p listing
    have keptAgents := visit_keeps agents fun q hq s => (reads q hq s).1
    have keptGroups := visit_keeps groups fun q hq s => (reads q hq s).2
    refine ⟨?_, keptAgents.trans sameAgents, keptGroups.trans sameGroups⟩
    rw [visited]
    exact own.sees points.unfinished goesOn fun further => ⟨further, RoleCursor.after_on on⟩
  have begins : RoleCursor.PointsAt "" .start := ⟨by decide, rfl⟩
  have seen := walk_follows_within (RoleCursor.stopsFrom_zero agentList.next groupList.next) sees
    sizes alike ⟨begins, agentList.chain.first_mem⟩ ⟨rfl, rfl⟩
  exact (scan_grants seen agentList.chain groupList.chain enough).2

theorem count_groupGrants (role : Resource) (id agent : UInt64) (groups : List AgentGroup) :
    (groupGrants role id groups).countP (fun g => g.principal = ⟨"agent", toString agent⟩) = 0 := by
  rw [List.countP_eq_zero]
  intro g given
  obtain ⟨group, _, rfl⟩ := List.mem_map.mp given
  rw [decide_eq_true_eq]
  have apart : "agent_group" ≠ "agent" := by decide
  exact fun same => apart (congrArg ResourceId.resourceType same)

theorem count_agentGrants (role : Resource) (id agent : UInt64) {records : List Agent}
    {roles : List AgentRole} (shown : ∀ a ∈ records, a.id = agent → a.roles = roles) :
    (agentGrants role id records).countP (fun g => g.principal = ⟨"agent", toString agent⟩) =
      if roles.any fun r => r.roleId = id then records.countP fun a => a.id = agent else 0 := by
  have named : ∀ a : Agent,
      (⟨"agent", toString a.id⟩ : ResourceId) = ⟨"agent", toString agent⟩ ↔ a.id = agent :=
    fun a => ⟨fun same => decimal_injective (congrArg ResourceId.resource same),
      fun own => by rw [own]⟩
  rw [agentGrants, roleAgents, List.countP_map, List.countP_filter]
  by_cases has : (roles.any fun r => r.roleId = id) = true
  · rw [if_pos has]
    refine List.countP_congr fun a present => ?_
    simp only [Function.comp_apply, Grant.new, named, Bool.and_eq_true, decide_eq_true_eq]
    constructor
    · exact fun both => both.1
    · intro own
      rw [shown a present own]
      exact ⟨own, by simpa using has⟩
  · rw [if_neg has, List.countP_eq_zero]
    intro a present
    simp only [Function.comp_apply, Grant.new, named, Bool.and_eq_true, decide_eq_true_eq]
    rintro ⟨own, holds⟩
    rw [shown a present own] at holds
    exact has (by simpa using holds)

theorem role_scan_count (desk : RoleDesk c server staff held agents groups) {role : Resource}
    {id : UInt64} (numbered : recordId role.id = .ok id) {s : σ} {agentList : Paged Agent}
    {groupList : Paged AgentGroup} (sizes : List UInt32)
    (alike : ∀ size ∈ sizes, agents s size = agentList ∧ groups s size = groupList)
    (enough : agentList.pages.length + groupList.pages.length ≤ sizes.length) (agent : UInt64) :
    ((walk server (Syncer.roles.grants c role) sizes "" s).flatMap Visit.items).countP
        (fun g => g.principal = ⟨"agent", toString agent⟩) =
      if (held s agent).any fun r => r.roleId = id then
        agentList.records.countP fun a => a.id = agent
      else 0 := by
  rw [role_scan desk numbered sizes alike enough, List.countP_append, count_groupGrants,
    Nat.add_zero]
  refine count_agentGrants role id agent fun a present own => ?_
  obtain ⟨size, hsize⟩ := agentList.exists_size (Nat.le_trans (Nat.le_add_right _ _) enough)
  rw [← own]
  refine desk.shown s size a ?_
  rw [(alike size hsize).1]
  exact present

theorem any_role_foldl (agent : UInt64) (ks : List Change) (before : List AgentRole)
    (role : UInt64) :
    ((ks.foldl (roleRoster agent).apply before).any fun r => r.roleId = role) =
      heldAfter before ks role := by
  rw [Bool.eq_iff_iff, any_role_iff agent, Roster.mem_ids_foldl, heldAfter]
  cases Change.last? ks role with
  | some k => rfl
  | none => exact (any_role_iff agent before role).symm

/-- Calls one after the other on the roles of agents that are stored. Every agent is left with what
    its own calls leave, and the next call writes exactly its own change or says that it stands, and
    touches nobody else. Assignments of roles that no call names are as they were. A complete scan
    afterwards lists every record of an agent once if the last call for the role was a grant, or
    there was none and the agent had it. -/
theorem role_changes_exactly_and_shown (c : Client) (server : σ → Request → Answer × σ)
    (staff : UInt64 → Prop) (held : σ → UInt64 → List AgentRole)
    (agents : σ → UInt32 → Paged Agent) (groups : σ → UInt32 → Paged AgentGroup)
    (desk : RoleDesk c server staff held agents groups) (s : σ) (calls : List StaffCall)
    (ofStaff : ∀ k ∈ calls, staff k.1) :
    let s' := session server (calls.map fun k => k.2.op c) s
    (∀ agent, held s' agent = (changesFor agent calls).foldl assignmentsAfter (held s agent)) ∧
    (∀ agent, staff agent → ∀ k : RoleCall agent,
      (roleRoster agent).Changes (held s' agent) k.change (visit server (k.op c) s').1
        (held (visit server (k.op c) s').2 agent) ∧
      held (visit server (k.op c) s').2 agent = assignmentsAfter (held s' agent) k.change ∧
      ∀ other, other ≠ agent → held (visit server (k.op c) s').2 other = held s' other) ∧
    (∀ agent, (held s' agent).filter (fun r => ∀ k ∈ changesFor agent calls, k.id ≠ r.roleId) =
      (held s agent).filter fun r => ∀ k ∈ changesFor agent calls, k.id ≠ r.roleId) ∧
    ∀ role id, recordId role.id = .ok id → ∀ sizes agentList groupList,
      (∀ size ∈ sizes, agents s' size = agentList ∧ groups s' size = groupList) →
      agentList.pages.length + groupList.pages.length ≤ sizes.length → ∀ agent,
        ((walk server (Syncer.roles.grants c role) sizes "" s').flatMap Visit.items).countP
            (fun g => g.principal = ⟨"agent", toString agent⟩) =
          if heldAfter (held s agent) (changesFor agent calls) id then
            agentList.records.countP fun a => a.id = agent
          else 0 := by
  intro s'
  have left : ∀ agent, held s' agent =
      (changesFor agent calls).foldl (roleRoster agent).apply (held s agent) :=
    fun agent => held_session desk agent calls ofStaff s
  refine ⟨fun agent => ?_, fun agent own k => ?_, fun agent => ?_, ?_⟩
  · have same : (roleRoster agent).apply = assignmentsAfter :=
      funext fun roles => funext fun k => apply_assignments agent roles k
    rw [left, same]
  · obtain ⟨changes, others⟩ := role_call_visit desk own k s'
    exact ⟨changes, changes.apply.trans (apply_assignments agent _ _), others⟩
  · rw [left]
    refine (roleRoster agent).filter_foldl _ _
      (fun role => ∀ k ∈ changesFor agent calls, k.id ≠ role) fun k named => ?_
    rw [decide_eq_false_iff_not]
    exact fun apart => apart k named rfl
  · intro role id numbered sizes agentList groupList alike enough agent
    rw [role_scan_count desk numbered sizes alike enough, left, any_role_foldl]

def onDuty (roles : List AgentRole) : List Agent :=
  [⟨31, none, none, none, none, roles, none, none, none, none, none, none, none, none, none⟩,
    ⟨32, none, none, none, none, [.new 8], none, none, none, none, none, none, none, none, none⟩]

def dutyServer (roles : List AgentRole) (q : Request) : Answer × List AgentRole :=
  match q.endpoint with
  | .agents => (.ok (onTwoPages Agent.codec "agents" (onDuty roles) q), roles)
  | .groups => (.ok (onTwoPages AgentGroup.codec "groups" teams q), roles)
  | _ => agentServer roles q

def dutyRoles (roles : List AgentRole) (agent : UInt64) : List AgentRole :=
  if agent = 31 then roles else [.new 8]

theorem dutyServer_desk : RoleDesk acme dutyServer (fun agent => agent = 31) dutyRoles
    (fun roles _ => twoPages (onDuty roles)) fun _ _ => twoPages teams where
  stores := by
    rintro agent rfl
    exact ⟨agentServer_isStore.reached, agentServer_isStore.reads, agentServer_isStore.writes⟩
  apart := by
    rintro agent other rfl apart q _ roles
    rw [dutyRoles, dutyRoles, if_neg apart, if_neg apart]
  agentPages := onTwoPages_serves onDuty (reaches_of_isOk (by decide +kernel)) Agent.codec_faithful
    Agent.codec_fits (by decide) fun _ _ => rfl
  groupPages := onTwoPages_serves (fun _ => teams) (reaches_of_isOk (by decide +kernel))
    AgentGroup.codec_faithful AgentGroup.codec_fits (by decide) fun _ _ => rfl
  shown := by
    intro roles size a listed
    rw [twoPages_records, onDuty] at listed
    simp only [List.mem_cons, List.not_mem_nil, or_false] at listed
    rcases listed with rfl | rfl
    · rfl
    · rfl
  kept := by
    rintro roles e p (rfl | rfl)
    · exact ⟨rfl, rfl⟩
    · exact ⟨rfl, rfl⟩

theorem duty_roles_changed :
    let calls : List StaffCall := [⟨31, earns 9⟩, ⟨31, loses 8⟩, ⟨31, earns 9⟩]
    let left := session dutyServer (calls.map fun k => k.2.op acme)
      [.new 8, limited, ⟨8, some "assigned_items", none⟩]
    let next := visit dutyServer ((earns 8).op acme) left
    let listed := fun role principal => ((walk dutyServer (Syncer.roles.grants acme
        (Role.resource ⟨role, "Reader", none, none⟩)) [0, 50, 7, 7] "" left).flatMap
      Visit.items).countP fun g => g.principal = principal
    left = [limited, ⟨9, some "entire_helpdesk", none⟩] ∧
      next.1.asked.map Request.sent = [⟨"GET", "agents/31", [], none⟩,
        ⟨"PUT", "agents/31", [], some ("\x7b\"roles\":[" ++
          "\x7b\"role_id\":5,\"assignment_scope\":\"assigned_items\",\"groups\":[3]\x7d," ++
          "\x7b\"role_id\":9,\"assignment_scope\":\"entire_helpdesk\"\x7d," ++
          "\x7b\"role_id\":8,\"assignment_scope\":\"entire_helpdesk\"\x7d]\x7d")⟩] ∧
      left.filter (fun r => ∀ k ∈ changesFor 31 calls, k.id ≠ r.roleId) = [limited] ∧
      listed 9 ⟨"agent", "31"⟩ = 1 ∧ listed 8 ⟨"agent", "31"⟩ = 0 ∧
      listed 8 ⟨"agent", "32"⟩ = 1 := by
  intro calls left next listed
  have ofStaff : ∀ k ∈ calls, k.1 = 31 := by
    intro k hk
    simp only [calls, List.mem_cons, List.not_mem_nil, or_false] at hk
    rcases hk with rfl | rfl | rfl <;> rfl
  obtain ⟨leaves, writes, others, shown⟩ := role_changes_exactly_and_shown acme dutyServer _
    dutyRoles _ _ dutyServer_desk [.new 8, limited, ⟨8, some "assigned_items", none⟩] calls ofStaff
  have stays : left = [limited, ⟨9, some "entire_helpdesk", none⟩] := (leaves 31).trans (by decide)
  obtain ⟨changes, after, _⟩ := writes 31 rfl (earns 8)
  have count := fun role agent => shown (Role.resource ⟨role, "Reader", none, none⟩) role
    (recordId_idText roleId role) [0, 50, 7, 7] _ _ (fun _ _ => ⟨rfl, rfl⟩) (by decide) agent
  refine ⟨stays, ?_, (others 31).trans ?_, (count 9 31).trans ?_, (count 8 31).trans ?_,
    (count 8 32).trans ?_⟩
  · have sent := changes.sent
    have stored : dutyRoles left 31 = [limited, ⟨9, some "entire_helpdesk", none⟩] := stays
    rw [after, stored] at sent
    exact sent.trans (by decide +kernel)
  · decide
  · decide
  · decide
  · decide

end IdentitySync.Desk
