import IdentitySync.Desk.Connector
import IdentitySync.Proofs.Desk.Roster

/-!
Grants and revocations as they are asked for. Each is refused for a principal of another type or an
id that is no number, before anything is asked. Those of group membership then change the list of
members in the group's record, those of roles the list of roles in the agent's record, both the same
change of a list; requester groups are asked for the member, who is then added or removed.
-/
namespace IdentitySync.Desk

inductive AccessCall where
  | grant (principal : ResourceId) (e : Entitlement)
  | revoke (g : Grant)

namespace AccessCall

def principal : AccessCall → ResourceId
  | .grant principal _ => principal
  | .revoke g => g.principal

def entitlement : AccessCall → Entitlement
  | .grant _ e => e
  | .revoke g => g.entitlement

def op (s : Syncer) (c : Client) : AccessCall → Op Annotations
  | .grant principal e => s.grant c principal e
  | .revoke g => s.revoke c g

def change (id : UInt64) : AccessCall → Change
  | .grant _ _ => .grant id
  | .revoke _ => .revoke id

theorem change_id (id : UInt64) (call : AccessCall) : (call.change id).id = id := by
  cases call <;> rfl

def remark : AccessCall → Annotation
  | .grant _ _ => .grantAlreadyExists
  | .revoke _ => .grantAlreadyRevoked

theorem change_remark (id : UInt64) (call : AccessCall) :
    (call.change id).remark = call.remark := by
  cases call <;> rfl

structure Numbered (call : AccessCall) (resource principal : UInt64) : Prop where
  resource : Text.readWord64? call.entitlement.resource.id.resource = some resource
  principal : Text.readWord64? call.principal.resource = some principal

theorem numbered_of_recordId {call : AccessCall} {m n : UInt64}
    (resource : recordId call.entitlement.resource.id = .ok m)
    (principal : recordId call.principal = .ok n) : call.Numbered m n :=
  ⟨recordId_ok_iff.mp resource, recordId_ok_iff.mp principal⟩

variable {β : Type}

/-- Goes on with the numbers of the entitlement's resource and of the principal, if the principal
    has the expected type. -/
def admitted (call : AccessCall) (expected action : String) (rest : UInt64 → UInt64 → Op β) :
    Op β := do
  requirePrincipal call.principal expected action
  let resource ← recordIdOp call.entitlement.resource.id
  let principal ← recordIdOp call.principal
  rest resource principal

variable {call : AccessCall} {expected action : String} {rest : UInt64 → UInt64 → Op β}

theorem admitted_mismatch (other : call.principal.resourceType ≠ expected) :
    call.admitted expected action rest =
      .fail (.principalMismatch connectorName expected call.principal.resourceType action) := by
  rw [admitted, requirePrincipal, if_neg other]
  rfl

theorem admitted_unnumbered (own : call.principal.resourceType = expected)
    (unnumbered : ∀ m n, ¬call.Numbered m n) :
    ∃ message, call.admitted expected action rest = .fail (.invalidData message) := by
  rw [admitted, requirePrincipal, if_pos own, Exchange.done_bind]
  cases first : recordId call.entitlement.resource.id with
  | error fault =>
    obtain ⟨id, rfl⟩ := recordId_error first
    rw [recordIdOp, first]
    exact ⟨_, rfl⟩
  | ok m =>
    rw [recordIdOp_ok first, Exchange.done_bind]
    cases second : recordId call.principal with
    | error fault =>
      obtain ⟨id, rfl⟩ := recordId_error second
      rw [recordIdOp, second]
      exact ⟨_, rfl⟩
    | ok n => exact absurd (numbered_of_recordId first second) (unnumbered m n)

theorem admitted_numbered {m n : UInt64} (own : call.principal.resourceType = expected)
    (numbered : call.Numbered m n) : call.admitted expected action rest = rest m n := by
  rw [admitted, requirePrincipal, if_pos own,
    recordIdOp_ok (recordId_ok_iff.mpr numbered.resource),
    recordIdOp_ok (recordId_ok_iff.mpr numbered.principal)]
  rfl

end AccessCall

def groupRoster (groupId : UInt64) : Roster UInt64 AgentGroup where
  endpoint := .group groupId
  path := "groups/" ++ toString groupId
  endpoint_path := Endpoint.group_path groupId
  codec := AgentGroup.codec
  envelope := "group"
  entries := AgentGroup.members
  item := .word64
  listKey := "members"
  entry := fun m => .number (.natural m.toNat)
  item_encode := fun _ => rfl
  id := fun m => m
  make := fun m => m
  id_make := fun _ => rfl
  item_faithful := Codec.word64_faithful
  item_fits := Codec.word64_fits 2

def assignmentEntry (r : AgentRole) : Json :=
  .record ([("role_id", .number (.natural r.roleId.toNat))] ++
    (r.scope.map fun scope => ("assignment_scope", .string scope)).toList ++
    (r.groups.map fun ids =>
      ("groups", .list (ids.map fun id => .number (.natural id.toNat)))).toList)

theorem assignment_encode (r : AgentRole) : AgentRole.codec.encode r = assignmentEntry r := by
  obtain ⟨role, scope, groups⟩ := r
  cases scope <;> cases groups <;> rfl

def roleRoster (agent : UInt64) : Roster AgentRole Agent where
  endpoint := .agent agent
  path := "agents/" ++ toString agent
  endpoint_path := Endpoint.agent_path agent
  codec := Agent.codec
  envelope := "agent"
  entries := Agent.roles
  item := AgentRole.codec
  listKey := "roles"
  entry := assignmentEntry
  item_encode := assignment_encode
  id := AgentRole.roleId
  make := fun role => ⟨role, some "entire_helpdesk", none⟩
  id_make := fun _ => rfl
  item_faithful := AgentRole.codec_faithful
  item_fits := AgentRole.codec_fits

theorem groupRoster_ids (groupId : UInt64) (members : List UInt64) :
    (groupRoster groupId).ids members = members := List.map_id members

theorem hasRole_iff {agent : UInt64} (a : Agent) (role : UInt64) :
    a.hasRole role = true ↔ role ∈ (roleRoster agent).ids a.roles := by
  rw [Agent.hasRole, List.any_eq_true, Roster.ids, List.mem_map]
  simp only [decide_eq_true_eq]
  rfl

def memberChange (groupId : UInt64) : Change → Request
  | .grant id => ⟨.post, .member groupId id, [], none⟩
  | .revoke id => ⟨.delete, .member groupId id, [], none⟩

def memberChanging (groupId : UInt64) : Change → Sent
  | .grant id =>
    ⟨"POST", "requester_groups/" ++ toString groupId ++ "/members/" ++ toString id, [], none⟩
  | .revoke id =>
    ⟨"DELETE", "requester_groups/" ++ toString groupId ++ "/members/" ++ toString id, [], none⟩

theorem memberChange_sent (groupId : UInt64) (k : Change) :
    (memberChange groupId k).sent = memberChanging groupId k := by
  cases k with
  | grant id =>
    rw [memberChanging, ← Endpoint.member_path]
    rfl
  | revoke id =>
    rw [memberChanging, ← Endpoint.member_path]
    rfl

/-- Looks for the member and, unless the change is there already, asks for it. -/
def RequesterMembership.change (c : Client) (groupId : UInt64) (k : Change) : Op Annotations := do
  let (present, rateLimit) ← (isMember c groupId k.id).op
  if present = k.grants then .done (remarked rateLimit k.remark)
  else
    let changed ← (c.acknowledge (memberChange groupId k)).op
    .done (Annotations.withRateLimit [] changed.rateLimit)

/-- What agents are members of, what agents are assigned and what requesters are members of. -/
inductive AccessKind where
  | agentGroup
  | role
  | requesterGroup
deriving DecidableEq

namespace AccessKind

def syncer : AccessKind → Syncer
  | .agentGroup => .agentGroups
  | .role => .roles
  | .requesterGroup => .requesterGroups

def principalType : AccessKind → String
  | .agentGroup => "agent"
  | .role => "agent"
  | .requesterGroup => "requester"

def change (c : Client) (call : AccessCall) (resource principal : UInt64) :
    AccessKind → Op Annotations
  | .agentGroup => (groupRoster resource).change c (call.change principal)
  | .role => (roleRoster principal).change c (call.change resource)
  | .requesterGroup => RequesterMembership.change c resource (call.change principal)

theorem group_op (c : Client) (call : AccessCall) : ∃ action, call.op .agentGroups c =
    call.admitted agentId action
      fun groupId id => (groupRoster groupId).change c (call.change id) := by
  cases call with
  | grant principal e =>
    refine ⟨"granted group membership", ?_⟩
    refine congrArg (fun rest => AccessCall.admitted (.grant principal e) agentId _ rest)
      (funext fun groupId => funext fun id => ?_)
    refine congrArg (fun rest => (c.agentGroup groupId).op >>= rest) (funext fun group => ?_)
    refine if_congr ?_ rfl rfl
    rw [List.contains_iff_mem]
    exact (((groupRoster groupId).stands_grant _ id).trans (by rw [groupRoster_ids]; rfl)).symm
  | revoke g =>
    refine ⟨"revoked group membership", ?_⟩
    refine congrArg (fun rest => AccessCall.admitted (.revoke g) agentId _ rest)
      (funext fun groupId => funext fun id => ?_)
    refine congrArg (fun rest => (c.agentGroup groupId).op >>= rest) (funext fun group => ?_)
    refine if_congr ?_ rfl rfl
    rw [Bool.not_eq_true', ← Bool.not_eq_true, List.contains_iff_mem]
    exact (((groupRoster groupId).stands_revoke _ id).trans (by rw [groupRoster_ids]; rfl)).symm

theorem role_op (c : Client) (call : AccessCall) : ∃ action, call.op .roles c =
    call.admitted agentId action
      fun role agent => (roleRoster agent).change c (call.change role) := by
  cases call with
  | grant principal e =>
    refine ⟨"granted roles", ?_⟩
    refine congrArg (fun rest => AccessCall.admitted (.grant principal e) agentId _ rest)
      (funext fun role => funext fun agent => ?_)
    refine congrArg (fun rest => (c.agent agent).op >>= rest) (funext fun found => ?_)
    refine if_congr ?_ rfl rfl
    exact (hasRole_iff found.data role).trans ((roleRoster agent).stands_grant _ role).symm
  | revoke g =>
    refine ⟨"revoked roles", ?_⟩
    refine congrArg (fun rest => AccessCall.admitted (.revoke g) agentId _ rest)
      (funext fun role => funext fun agent => ?_)
    refine congrArg (fun rest => (c.agent agent).op >>= rest) (funext fun found => ?_)
    refine if_congr ?_ rfl rfl
    rw [Bool.not_eq_true', ← Bool.not_eq_true]
    exact (not_congr (hasRole_iff found.data role)).trans
      ((roleRoster agent).stands_revoke _ role).symm

theorem requester_op (c : Client) (call : AccessCall) : ∃ action, call.op .requesterGroups c =
    call.admitted requesterId action
      fun groupId id => RequesterMembership.change c groupId (call.change id) := by
  cases call with
  | grant principal e =>
    refine ⟨"granted requester group membership", ?_⟩
    refine congrArg (fun rest => AccessCall.admitted (.grant principal e) requesterId _ rest)
      (funext fun groupId => funext fun id => ?_)
    rfl
  | revoke g =>
    refine ⟨"revoked requester group membership", ?_⟩
    refine congrArg (fun rest => AccessCall.admitted (.revoke g) requesterId _ rest)
      (funext fun groupId => funext fun id => ?_)
    refine congrArg (fun rest => (RequesterMembership.isMember c groupId id).op >>= rest)
      (funext fun found => ?_)
    refine if_congr ?_ rfl rfl
    rw [Bool.not_eq_true']
    rfl

/-- Every call is admitted first and then comes down to its change. -/
theorem op_eq (kind : AccessKind) (c : Client) (call : AccessCall) :
    ∃ action, call.op kind.syncer c =
      call.admitted kind.principalType action fun m n => kind.change c call m n := by
  cases kind with
  | agentGroup => exact group_op c call
  | role => exact role_op c call
  | requesterGroup => exact requester_op c call

end AccessKind

/-- A call for an agent, whose number can be read, on the entitlement of one agent group. -/
structure MemberCall (groupId : UInt64) where
  call : AccessCall
  member : UInt64
  forAgent : call.principal.resourceType = agentId
  ofGroup : recordId call.entitlement.resource.id = .ok groupId
  numbered : recordId call.principal = .ok member

structure RoleCall (agent : UInt64) where
  call : AccessCall
  role : UInt64
  forAgent : call.principal.resourceType = agentId
  ofAgent : recordId call.principal = .ok agent
  numbered : recordId call.entitlement.resource.id = .ok role

structure RequesterCall (groupId : UInt64) where
  call : AccessCall
  member : UInt64
  forRequester : call.principal.resourceType = requesterId
  ofGroup : recordId call.entitlement.resource.id = .ok groupId
  numbered : recordId call.principal = .ok member

namespace MemberCall

variable {groupId : UInt64}

def op (k : MemberCall groupId) (c : Client) : Op Annotations := k.call.op .agentGroups c

def change (k : MemberCall groupId) : Change := k.call.change k.member

theorem op_eq_change (k : MemberCall groupId) (c : Client) :
    k.op c = (groupRoster groupId).change c k.change := by
  obtain ⟨_, admitted⟩ := AccessKind.group_op c k.call
  exact admitted.trans (AccessCall.admitted_numbered k.forAgent
    (AccessCall.numbered_of_recordId k.ofGroup k.numbered))

end MemberCall

namespace RoleCall

variable {agent : UInt64}

def op (k : RoleCall agent) (c : Client) : Op Annotations := k.call.op .roles c

def change (k : RoleCall agent) : Change := k.call.change k.role

theorem op_eq_change (k : RoleCall agent) (c : Client) :
    k.op c = (roleRoster agent).change c k.change := by
  obtain ⟨_, admitted⟩ := AccessKind.role_op c k.call
  exact admitted.trans (AccessCall.admitted_numbered k.forAgent
    (AccessCall.numbered_of_recordId k.numbered k.ofAgent))

end RoleCall

namespace RequesterCall

variable {groupId : UInt64}

def op (k : RequesterCall groupId) (c : Client) : Op Annotations := k.call.op .requesterGroups c

def change (k : RequesterCall groupId) : Change := k.call.change k.member

theorem op_eq_change (k : RequesterCall groupId) (c : Client) :
    k.op c = RequesterMembership.change c groupId k.change := by
  obtain ⟨_, admitted⟩ := AccessKind.requester_op c k.call
  exact admitted.trans (AccessCall.admitted_numbered k.forRequester
    (AccessCall.numbered_of_recordId k.ofGroup k.numbered))

end RequesterCall

end IdentitySync.Desk
