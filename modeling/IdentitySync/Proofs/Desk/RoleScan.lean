import IdentitySync.Proofs.Desk.PageWalk
import IdentitySync.Proofs.Json.Tagged

/-!
Scans for the holders of a role. The phase and the page of a scan live only in its token, and the
token gives them back. So calls that feed every token into the next see the agent pages up to the
first without a successor, then the group pages up to the first without one, and nothing after it:
every agent and every group that holds the role is found once.
-/
namespace IdentitySync.Desk
open Http Client

namespace RoleCursor

theorem pageFields_faithful : pageFields.Faithful :=
  ⟨Field.required_faithful _ Codec.word32_faithful, by decide, trivial⟩

theorem codec_faithful : codec.Faithful := by
  refine Codec.tagged_faithful fun c => ?_
  cases c with
  | users page =>
    exact ⟨_, rfl, by simp [written, pageFields, Fields.encode, Field.required],
      fun d shown => Content.fields_shown pageFields_faithful _ _ (page, ()) d shown⟩
  | groups page =>
    exact ⟨_, rfl, by simp [written, pageFields, Fields.encode, Field.required],
      fun d shown => Content.fields_shown pageFields_faithful _ _ (page, ()) d shown⟩
  | done =>
    exact ⟨_, rfl, List.not_mem_nil,
      fun d shown => Content.nothing_shown RoleCursor.done [] d shown⟩

theorem codec_fits : codec.Fits 1 := by
  intro c
  cases c with
  | users page =>
    exact ⟨(by decide : ["phase", "page"].Nodup), trivial, Codec.word32_fits 0 page, trivial⟩
  | groups page =>
    exact ⟨(by decide : ["phase", "page"].Nodup), trivial, Codec.word32_fits 0 page, trivial⟩
  | done => exact ⟨(by decide : ["phase"].Nodup), trivial, trivial⟩

theorem token_empty_iff (c : RoleCursor) : c.token = "" ↔ c = .done := by
  cases c with
  | users page => exact ⟨fun h => absurd h (Json.text_record_ne_empty _), fun h => by cases h⟩
  | groups page => exact ⟨fun h => absurd h (Json.text_record_ne_empty _), fun h => by cases h⟩
  | done => exact ⟨fun _ => rfl, fun _ => rfl⟩

theorem ofToken_text (c : RoleCursor) : ofToken (codec.encode c).text = .ok c := by
  have some : (codec.encode c).text ≠ "" := Json.text_record_ne_empty _
  have read := Codec.read_text codec_faithful codec_fits (by decide) c
  rw [ofToken, if_neg some, read]

theorem ofToken_token {c : RoleCursor} (unfinished : c ≠ .done) : ofToken c.token = .ok c := by
  cases c with
  | users page => exact ofToken_text (.users page)
  | groups page => exact ofToken_text (.groups page)
  | done => exact absurd rfl unfinished

structure PointsAt (token : String) (c : RoleCursor) : Prop where
  unfinished : c ≠ .done
  place : ofToken token = .ok c

/-- The pages that calls see from here on, at most so many: the rest of the agents' orbit, and
    behind it the groups' from their first page. -/
def stopsFrom (nextAgents nextGroups : UInt32 → Option UInt32) (n : Nat) :
    RoleCursor → List RoleCursor
  | .users page =>
    let pages := orbit nextAgents n (max page 1)
    pages.map .users ++ (orbit nextGroups (n - pages.length) 1).map .groups
  | .groups page => (orbit nextGroups n (max page 1)).map .groups
  | .done => []

def seen : RoleCursor → RoleCursor
  | .users page => .users (max page 1)
  | .groups page => .groups (max page 1)
  | .done => .done

def after (nextAgents nextGroups : UInt32 → Option UInt32) : RoleCursor → RoleCursor
  | .users page => afterUsers (nextAgents (max page 1))
  | .groups page => afterGroups (nextGroups (max page 1))
  | .done => .done

theorem stopsFrom_zero (nextAgents nextGroups : UInt32 → Option UInt32) (c : RoleCursor) :
    stopsFrom nextAgents nextGroups 0 c = [] := by
  cases c <;> rfl

theorem stopsFrom_succ (nextAgents nextGroups : UInt32 → Option UInt32) (n : Nat) {c : RoleCursor}
    (unfinished : c ≠ .done) : stopsFrom nextAgents nextGroups (n + 1) c =
      c.seen :: stopsFrom nextAgents nextGroups n (c.after nextAgents nextGroups) := by
  cases c with
  | users page =>
    cases follows : nextAgents (max page 1) with
    | none =>
      simp only [stopsFrom, orbit, follows, after, afterUsers, seen, List.map_cons, List.map_nil,
        List.length_cons, List.length_nil, Nat.add_sub_cancel, List.cons_append, List.nil_append]
      rfl
    | some following =>
      simp only [stopsFrom, orbit, follows, after, afterUsers, seen, List.map_cons,
        List.length_cons, Nat.add_sub_add_right, List.cons_append]
  | groups page =>
    cases follows : nextGroups (max page 1) with
    | none =>
      simp only [stopsFrom, orbit, follows, after, afterGroups, seen, List.map_cons, List.map_nil]
    | some following =>
      simp only [stopsFrom, orbit, follows, after, afterGroups, seen, List.map_cons]
  | done => exact absurd rfl unfinished

end RoleCursor

variable {σ : Type}

/-- The agents among these that have some assignment of the role. -/
def roleAgents (id : UInt64) (agents : List Agent) : List Agent :=
  agents.filter fun a => ∃ r ∈ a.roles, r.roleId = id

def roleGroups (id : UInt64) (groups : List AgentGroup) : List AgentGroup :=
  groups.filter fun g => id ∈ g.roleIds.getD []

def agentGrants (role : Resource) (id : UInt64) (agents : List Agent) : List Grant :=
  (roleAgents id agents).map fun a => Grant.new (roleEntitlement role) ⟨"agent", toString a.id⟩

def groupGrants (role : Resource) (id : UInt64) (groups : List AgentGroup) : List Grant :=
  (roleGroups id groups).map fun g =>
    Grant.new (roleEntitlement role) ⟨"agent_group", toString g.id⟩

theorem holders_agents (role : Resource) (id : UInt64) (agents : List Agent) :
    RoleAssignment.holders (fun a => agentPrincipal a.id) (fun a => a.hasRole id)
      (roleEntitlement role) agents = agentGrants role id agents := by
  have same : (fun a : Agent => a.hasRole id) = fun a => decide (∃ r ∈ a.roles, r.roleId = id) := by
    funext a
    rw [Bool.eq_iff_iff, Agent.hasRole, List.any_eq_true, decide_eq_true_iff]
    simp only [decide_eq_true_eq]
  simp only [RoleAssignment.holders, same, agentPrincipal_eq]
  rfl

theorem holders_groups (role : Resource) (id : UInt64) (groups : List AgentGroup) :
    RoleAssignment.holders (fun g => agentGroupPrincipal g.id) (fun g => g.hasRole id)
      (roleEntitlement role) groups = groupGrants role id groups := by
  have same : (fun g : AgentGroup => g.hasRole id) = fun g => decide (id ∈ g.roleIds.getD []) := by
    funext g
    rw [AgentGroup.hasRole]
    cases g.roleIds with
    | none => rfl
    | some ids => simp
  simp only [RoleAssignment.holders, same, agentGroupPrincipal_eq]
  rfl

section
variable {c : Client} {server : σ → Request → Answer × σ} {role : Resource} {id : UInt64}
  {token : String} {size : UInt32} {s : σ}

/-- What one call of a scan asks and gives at each stop. -/
def VisitsStop (role : Resource) (id : UInt64) (agents : UInt32 → List Agent)
    (groups : UInt32 → List AgentGroup) (nextGroups : UInt32 → Option UInt32) :
    RoleCursor → UInt32 → Visit (SyncPage Grant) → Prop
  | .users page, size, v =>
    v.asked = [pageGet .agents ⟨page, clampPageSize size⟩] ∧
      v.asked.map Request.sent = [.page "agents" page (boundedSize size)] ∧
      ∃ p, v.outcome = .done p ∧ p.items = agentGrants role id (agents page) ∧ p.nextToken ≠ ""
  | .groups page, size, v =>
    v.asked = [pageGet .groups ⟨page, clampPageSize size⟩] ∧
      v.asked.map Request.sent = [.page "groups" page (boundedSize size)] ∧
      ∃ p, v.outcome = .done p ∧ p.items = groupGrants role id (groups page) ∧
        (p.nextToken = "" ↔ nextGroups page = none)
  | .done, _, v => v.asked = [] ∧ v.outcome = .done .empty

theorem users_run {page : UInt32} {items : List Agent} {next : Option UInt32} {r : Response}
    (numbered : recordId role.id = .ok id) (place : RoleCursor.ofToken token = .ok (.users page))
    (reached : c.Reaches .agents) (answer : (server s (pageGet .agents (.new page size))).1 = .ok r)
    (stands : PageAnswer Agent.codec "agents" items next r) :
    ∃ remarks, (RoleAssignment.grants c role ⟨token, size⟩).run server s =
      (.done ⟨agentGrants role id items, (RoleCursor.afterUsers next).token, remarks⟩,
        (server s (pageGet .agents (.new page size))).2) := by
  obtain ⟨quota, run⟩ := page_run reached answer stands
  have called := Exchange.run_mapFailure_done run Fault.failure
  refine ⟨Annotations.withRateLimit [] quota, ?_⟩
  rw [← holders_agents]
  simp only [RoleAssignment.grants, recordIdOp_ok numbered, place, Exchange.done_bind,
    Exchange.bind_ok]
  exact Exchange.run_bind_done called _

theorem groups_run {page : UInt32} {items : List AgentGroup} {next : Option UInt32} {r : Response}
    (numbered : recordId role.id = .ok id) (place : RoleCursor.ofToken token = .ok (.groups page))
    (reached : c.Reaches .groups) (answer : (server s (pageGet .groups (.new page size))).1 = .ok r)
    (stands : PageAnswer AgentGroup.codec "groups" items next r) :
    ∃ remarks, (RoleAssignment.grants c role ⟨token, size⟩).run server s =
      (.done ⟨groupGrants role id items, (RoleCursor.afterGroups next).token, remarks⟩,
        (server s (pageGet .groups (.new page size))).2) := by
  obtain ⟨quota, run⟩ := page_run reached answer stands
  have called := Exchange.run_mapFailure_done run Fault.failure
  refine ⟨Annotations.withRateLimit [] quota, ?_⟩
  rw [← holders_groups]
  simp only [RoleAssignment.grants, recordIdOp_ok numbered, place, Exchange.done_bind,
    Exchange.bind_ok]
  exact Exchange.run_bind_done called _

theorem done_run (numbered : recordId role.id = .ok id)
    (place : RoleCursor.ofToken token = .ok .done) :
    (RoleAssignment.grants c role ⟨token, size⟩).run server s = (.done .empty, s) := by
  simp only [RoleAssignment.grants, recordIdOp_ok numbered, place, Exchange.done_bind,
    Exchange.bind_ok]
  rfl

variable {agents : UInt32 → List Agent} {groups : UInt32 → List AgentGroup}
  {nextAgents nextGroups : UInt32 → Option UInt32}

def RoleCursor.Served (server : σ → Request → Answer × σ) (agents : UInt32 → List Agent)
    (groups : UInt32 → List AgentGroup) (nextAgents nextGroups : UInt32 → Option UInt32)
    (size : UInt32) (s : σ) : RoleCursor → Prop
  | .users page => ∃ r, (server s (pageGet .agents (.new page size))).1 = .ok r ∧
    PageAnswer Agent.codec "agents" (agents (max page 1)) (nextAgents (max page 1)) r
  | .groups page => ∃ r, (server s (pageGet .groups (.new page size))).1 = .ok r ∧
    PageAnswer AgentGroup.codec "groups" (groups (max page 1)) (nextGroups (max page 1)) r
  | .done => True

/-- One call from an unfinished cursor sees its page and leaves the cursor after it. -/
theorem scan_step (numbered : recordId role.id = .ok id) (toAgents : c.Reaches .agents)
    (toGroups : c.Reaches .groups) {cursor : RoleCursor} (unfinished : cursor ≠ .done)
    (place : RoleCursor.ofToken token = .ok cursor)
    (served : cursor.Served server agents groups nextAgents nextGroups size s) :
    ∃ asked p s', visit server (RoleAssignment.grants c role ⟨token, size⟩) s =
        (⟨asked, .done p⟩, s') ∧ p.nextToken = (cursor.after nextAgents nextGroups).token ∧
      VisitsStop role id agents groups nextGroups cursor.seen size ⟨asked, .done p⟩ := by
  cases cursor with
  | users page =>
    obtain ⟨r, answer, stands⟩ := served
    have noted : (Exchange.recorded server (s, []) (pageGet .agents (.new page size))).1 = .ok r :=
      answer
    obtain ⟨remarks, run⟩ := users_run numbered place toAgents noted stands
    have more : (RoleCursor.afterUsers (nextAgents (max page 1))).token ≠ "" := by
      intro finished
      rw [RoleCursor.token_empty_iff] at finished
      cases next : nextAgents (max page 1) <;> simp [next, RoleCursor.afterUsers] at finished
    have sent := congrArg (fun q => [q]) (pageGet_sent .agents (max page 1) size)
    exact ⟨_, _, _, visit_of_run run, rfl, rfl, sent, _, rfl, rfl, more⟩
  | groups page =>
    obtain ⟨r, answer, stands⟩ := served
    have noted : (Exchange.recorded server (s, []) (pageGet .groups (.new page size))).1 = .ok r :=
      answer
    obtain ⟨remarks, run⟩ := groups_run numbered place toGroups noted stands
    have ends : (RoleCursor.afterGroups (nextGroups (max page 1))).token = "" ↔
        nextGroups (max page 1) = none := by
      rw [RoleCursor.token_empty_iff]
      cases nextGroups (max page 1) <;> simp [RoleCursor.afterGroups]
    have sent := congrArg (fun q => [q]) (pageGet_sent .groups (max page 1) size)
    exact ⟨_, _, _, visit_of_run run, rfl, rfl, sent, _, rfl, rfl, ends⟩
  | done => exact absurd rfl unfinished

theorem VisitsStop.sees {Points : String → RoleCursor → Prop} {cursor : RoleCursor}
    (unfinished : cursor ≠ .done) {asked : List Request} {p : SyncPage Grant}
    (own : VisitsStop role id agents groups nextGroups cursor.seen size ⟨asked, .done p⟩)
    (goesOn : p.nextToken = (cursor.after nextAgents nextGroups).token)
    (points : RoleCursor.PointsAt p.nextToken (cursor.after nextAgents nextGroups) →
      Points p.nextToken (cursor.after nextAgents nextGroups)) :
    Sees Points (VisitsStop role id agents groups nextGroups)
      (fun n cursor => cursor.stopsFrom nextAgents nextGroups n) cursor size ⟨asked, .done p⟩ := by
  have stops := fun n => RoleCursor.stopsFrom_succ nextAgents nextGroups n unfinished
  by_cases finished : cursor.after nextAgents nextGroups = .done
  · have empty : p.nextToken = "" := by
      rw [goesOn, finished]
      rfl
    refine .last own empty fun n => ?_
    rw [stops, finished]
    rfl
  · have more : p.nextToken ≠ "" := by
      rw [goesOn, ne_eq, RoleCursor.token_empty_iff]
      exact finished
    refine .more own more (points ⟨finished, ?_⟩) stops
    rw [goesOn]
    exact RoleCursor.ofToken_token finished

theorem scan_sees (numbered : recordId role.id = .ok id)
    (forAgents : ServesPages c server Agent.codec "agents" .agents agents nextAgents)
    (forGroups : ServesPages c server AgentGroup.codec "groups" .groups groups nextGroups)
    {cursor : RoleCursor} (points : RoleCursor.PointsAt token cursor) (size : UInt32) (s : σ) :
    Sees RoleCursor.PointsAt (VisitsStop role id agents groups nextGroups)
      (fun n cursor => cursor.stopsFrom nextAgents nextGroups n) cursor size
      (visit server (RoleAssignment.grants c role ⟨token, size⟩) s).1 := by
  have served : cursor.Served server agents groups nextAgents nextGroups size s := by
    cases cursor with
    | users page => exact forAgents.answers s page size
    | groups page => exact forGroups.answers s page size
    | done => exact trivial
  obtain ⟨asked, p, s', first, goesOn, own⟩ := scan_step numbered forAgents.reached
    forGroups.reached points.unfinished points.place served
  rw [first]
  exact own.sees points.unfinished goesOn fun further => further

end

theorem agentGrants_flatMap (role : Resource) (id : UInt64) (agents : UInt32 → List Agent)
    (pages : List UInt32) : agentGrants role id (pages.flatMap agents) =
      pages.flatMap fun page => agentGrants role id (agents page) := by
  simp only [agentGrants, roleAgents, List.filter_flatMap, List.map_flatMap]

theorem groupGrants_flatMap (role : Resource) (id : UInt64) (groups : UInt32 → List AgentGroup)
    (pages : List UInt32) : groupGrants role id (pages.flatMap groups) =
      pages.flatMap fun page => groupGrants role id (groups page) := by
  simp only [groupGrants, roleGroups, List.filter_flatMap, List.map_flatMap]

def RoleCursor.gets (size : UInt32) : RoleCursor → List Request
  | .users page => [pageGet .agents ⟨page, clampPageSize size⟩]
  | .groups page => [pageGet .groups ⟨page, clampPageSize size⟩]
  | .done => []

theorem VisitsStop.asks {role : Resource} {id : UInt64} {agents : UInt32 → List Agent}
    {groups : UInt32 → List AgentGroup} {nextGroups : UInt32 → Option UInt32} (stop : RoleCursor)
    (size : UInt32) (v : Visit (SyncPage Grant))
    (seen : VisitsStop role id agents groups nextGroups stop size v) :
    v.asked = stop.gets size := by
  cases stop <;> exact seen.1

def stopGrants (role : Resource) (id : UInt64) (agents : UInt32 → List Agent)
    (groups : UInt32 → List AgentGroup) : RoleCursor → List Grant
  | .users page => agentGrants role id (agents page)
  | .groups page => groupGrants role id (groups page)
  | .done => []

theorem VisitsStop.grants {role : Resource} {id : UInt64} {agents : UInt32 → List Agent}
    {groups : UInt32 → List AgentGroup} {nextGroups : UInt32 → Option UInt32} (stop : RoleCursor)
    (size : UInt32) (v : Visit (SyncPage Grant))
    (seen : VisitsStop role id agents groups nextGroups stop size v) :
    v.items = stopGrants role id agents groups stop := by
  cases stop with
  | users page =>
    obtain ⟨_, _, p, outcome, given, _⟩ := seen
    rw [Visit.items, outcome]
    exact given
  | groups page =>
    obtain ⟨_, _, p, outcome, given, _⟩ := seen
    rw [Visit.items, outcome]
    exact given
  | done =>
    rw [Visit.items, seen.2]
    rfl

theorem RoleCursor.stops_of_chains {nextAgents nextGroups : UInt32 → Option UInt32}
    {agentPages groupPages : List UInt32} (first : PageChain nextAgents 1 agentPages)
    (second : PageChain nextGroups 1 groupPages) {n : Nat}
    (enough : agentPages.length + groupPages.length ≤ n) :
    RoleCursor.start.stopsFrom nextAgents nextGroups n =
      agentPages.map .users ++ groupPages.map .groups := by
  have agents := orbit_of_chain first (n := n) (by omega)
  have groups := orbit_of_chain second (n := n - agentPages.length) (by omega)
  have one : max (1 : UInt32) 1 = 1 := by decide
  simp only [start, stopsFrom, one, agents, groups]

theorem scan_grants {role : Resource} {id : UInt64} {agents : UInt32 → List Agent}
    {groups : UInt32 → List AgentGroup} {nextAgents nextGroups : UInt32 → Option UInt32}
    {sizes : List UInt32} {scan : List (Visit (SyncPage Grant))}
    (seen : List.Forall₂ (fun stop v => VisitsStop role id agents groups nextGroups stop.1 stop.2 v)
      ((RoleCursor.start.stopsFrom nextAgents nextGroups sizes.length).zip sizes) scan)
    {agentPages groupPages : List UInt32} (first : PageChain nextAgents 1 agentPages)
    (second : PageChain nextGroups 1 groupPages)
    (enough : agentPages.length + groupPages.length ≤ sizes.length) :
    scan.length = agentPages.length + groupPages.length ∧
      scan.flatMap Visit.items = agentGrants role id (agentPages.flatMap agents) ++
        groupGrants role id (groupPages.flatMap groups) := by
  rw [RoleCursor.stops_of_chains first second enough] at seen
  obtain ⟨count, given⟩ := items_of_visits VisitsStop.grants seen
    (by rw [List.length_append, List.length_map, List.length_map]; exact enough)
  constructor
  · rw [List.length_append, List.length_map, List.length_map] at count
    exact count
  · rw [agentGrants_flatMap, groupGrants_flatMap]
    rw [List.flatMap_append, List.flatMap_map, List.flatMap_map] at given
    exact given

/-- A scan for the holders of a role sees the agent pages, then the group pages, and finds every
    agent and every group on them that holds the role once; a finished scan asks nothing. -/
theorem every_role_holder_found_once (c : Client) (server : σ → Request → Answer × σ)
    (role : Resource) (id : UInt64) (numbered : recordId role.id = .ok id)
    (agents : UInt32 → List Agent) (groups : UInt32 → List AgentGroup)
    (nextAgents nextGroups : UInt32 → Option UInt32)
    (forAgents : ServesPages c server Agent.codec "agents" .agents agents nextAgents)
    (forGroups : ServesPages c server AgentGroup.codec "groups" .groups groups nextGroups)
    (sizes : List UInt32) (s : σ) :
    List.Forall₂ (fun stop v => VisitsStop role id agents groups nextGroups stop.1 stop.2 v)
      ((RoleCursor.start.stopsFrom nextAgents nextGroups sizes.length).zip sizes)
      (walk server (Syncer.roles.grants c role) sizes "" s) ∧
    (∀ agentPages groupPages, PageChain nextAgents 1 agentPages →
      PageChain nextGroups 1 groupPages → agentPages.length + groupPages.length ≤ sizes.length →
      RoleCursor.start.stopsFrom nextAgents nextGroups sizes.length =
        agentPages.map .users ++ groupPages.map .groups ∧
      (walk server (Syncer.roles.grants c role) sizes "" s).length =
        agentPages.length + groupPages.length ∧
      (walk server (Syncer.roles.grants c role) sizes "" s).flatMap Visit.items =
        agentGrants role id (agentPages.flatMap agents) ++
          groupGrants role id (groupPages.flatMap groups) ∧
      ((walk server (Syncer.roles.grants c role) sizes "" s).flatMap Visit.items).map
          Grant.principal =
        (roleAgents id (agentPages.flatMap agents)).map (fun a => ⟨"agent", toString a.id⟩) ++
          (roleGroups id (groupPages.flatMap groups)).map
            fun g => ⟨"agent_group", toString g.id⟩) ∧
    RoleCursor.ofToken (RoleCursor.codec.encode .done).text = .ok .done ∧
    ∀ token, RoleCursor.ofToken token = .ok .done → ∀ size,
      visit server (Syncer.roles.grants c role ⟨token, size⟩) s = (⟨[], .done .empty⟩, s) := by
  have begins : RoleCursor.PointsAt "" .start := ⟨by decide, rfl⟩
  have seen := walk_follows (RoleCursor.stopsFrom_zero nextAgents nextGroups)
    (fun token cursor points => scan_sees numbered forAgents forGroups points) sizes begins s
  refine ⟨seen, ?_, RoleCursor.ofToken_text .done, ?_⟩
  · intro agentPages groupPages first second enough
    obtain ⟨count, given⟩ := scan_grants seen first second enough
    refine ⟨RoleCursor.stops_of_chains first second enough, count, given, ?_⟩
    refine (congrArg (List.map Grant.principal) given).trans ?_
    rw [agentGrants, groupGrants, List.map_append, List.map_map, List.map_map]
    rfl
  · intro token place size
    have run : (RoleAssignment.grants c role ⟨token, size⟩).run (Exchange.recorded server) (s, []) =
      (.done .empty, (s, [])) := done_run numbered place
    simp only [visit, Syncer.grants, run]
    rfl

def staff : List Agent :=
  [⟨31, none, none, none, none,
      [⟨9, some "entire_helpdesk", none⟩, ⟨9, some "assigned_items", none⟩],
      none, none, none, none, none, none, none, none, none⟩,
    ⟨32, none, none, none, none, [.new 8], none, none, none, none, none, none, none, none, none⟩]

def teams : List AgentGroup :=
  [⟨5, "Network", none, [31], none⟩, ⟨4, "Service", none, [], some [8, 9]⟩]

theorem acme_role_holders_found_once :
    let role := Role.resource ⟨9, "Reader", none, none⟩
    let server := pagedServer fun e page =>
      if e = .agents then brokenOff Agent.codec "agents" staff page
      else brokenOff AgentGroup.codec "groups" teams page
    let scan := walk server (Syncer.roles.grants acme role) [100, 0, 7, 50, 50] "" ()
    recordId role.id = .ok 9 ∧
      scan.map (fun v => v.asked.map acme.target?) =
        [[some "/api/v2/agents?page=1&per_page=100"], [some "/api/v2/agents?page=2&per_page=100"],
          [some "/api/v2/groups?page=1&per_page=7"], [some "/api/v2/groups?page=2&per_page=50"]] ∧
      scan.flatMap Visit.items = [Grant.new (roleEntitlement role) ⟨"agent", "31"⟩,
        Grant.new (roleEntitlement role) ⟨"agent_group", "4"⟩] ∧
      (scan.flatMap Visit.items).map Grant.principal =
        [⟨"agent", "31"⟩, ⟨"agent_group", "4"⟩] := by
  intro role server scan
  have numbered : recordId role.id = .ok 9 := by decide +kernel
  have forAgents : ServesPages acme server Agent.codec "agents" .agents _ _ :=
    pagedServer_serves (reaches_of_isOk (by decide +kernel))
      (brokenOff_answers Agent.codec_faithful Agent.codec_fits (by decide) "agents" staff)
  have forGroups : ServesPages acme server AgentGroup.codec "groups" .groups _ _ :=
    pagedServer_serves (reaches_of_isOk (by decide +kernel))
      (brokenOff_answers AgentGroup.codec_faithful AgentGroup.codec_fits (by decide) "groups" teams)
  have chain : PageChain (fun page => if page = 1 then some 2 else none) 1 [1, 2] :=
    .more rfl (.last rfl)
  obtain ⟨seen, complete, _⟩ := every_role_holder_found_once acme server role 9 numbered _ _ _ _
    forAgents forGroups [100, 0, 7, 50, 50] ()
  obtain ⟨stops, _, grants, principals⟩ := complete [1, 2] [1, 2] chain chain (by decide)
  rw [stops] at seen
  have asked : scan.map Visit.asked = _ :=
    map_of_visits (g := fun stop => stop.1.gets stop.2) VisitsStop.asks seen
  refine ⟨numbered, ?_, grants.trans rfl, principals.trans rfl⟩
  have targets := congrArg (List.map (List.map acme.target?)) asked
  rw [List.map_map] at targets
  exact targets.trans (by decide +kernel)

end IdentitySync.Desk
