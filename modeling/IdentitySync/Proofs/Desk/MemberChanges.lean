import IdentitySync.Proofs.Desk.AccessCall

/-!
Sequences of changes to the members of an agent group. Each call writes exactly the change that it
was asked for, or nothing; together they leave every member whom no call names, and the listing of
grants afterwards shows the members that the last write left.
-/
namespace IdentitySync.Desk
open Http

variable {σ : Type} {c : Client} {groupId : UInt64} {server : σ → Request → Answer × σ}
  {stored : σ → List UInt64}

theorem stored_calls (store : (groupRoster groupId).IsStore c server stored)
    (calls : List (MemberCall groupId)) (s : σ) :
    stored (session server (calls.map fun k => k.op c) s) =
      (calls.map MemberCall.change).foldl (groupRoster groupId).apply (stored s) := by
  have same : (calls.map fun k => k.op c) =
      (calls.map MemberCall.change).map ((groupRoster groupId).change c) := by
    rw [List.map_map]
    exact List.map_congr_left fun k _ => k.op_eq_change c
  rw [same, Roster.stored_session store]

theorem grants_visit (store : (groupRoster groupId).IsStore c server stored) {group : Resource}
    (numbered : recordId group.id = .ok groupId) (s : σ) :
    ∃ p, visit server (GroupMembership.grants c group) s =
        (⟨[(groupRoster groupId).get], .done p⟩, (server s (groupRoster groupId).get).2) ∧
      p.items =
        (stored s).map (fun id => Grant.new (groupEntitlement group) ⟨"agent", toString id⟩) ∧
      p.nextToken = "" := by
  obtain ⟨answer, record, answered, delivers, holds, _⟩ := store.reads s
  obtain ⟨next, asks, ends⟩ := Client.op_ask AgentGroup.codec "group" (groupRoster groupId).get
    store.reached fun reply => (.done
      ⟨reply.data.members.map fun id => Grant.new (groupEntitlement group) (agentPrincipal id), "",
        Annotations.withRateLimit [] reply.rateLimit⟩ : Op (SyncPage Grant))
  obtain ⟨quota, finished⟩ := ends record answer delivers
  have whole : GroupMembership.grants c group = .ask (groupRoster groupId).get next := by
    rw [GroupMembership.grants, recordIdOp_ok numbered, Exchange.done_bind]
    exact asks
  refine ⟨_, visit_ask whole answered finished, ?_, rfl⟩
  rw [← holds]
  exact List.map_congr_left fun id _ => congrArg _ (agentPrincipal_eq id)

/-- Calls one after the other on the members of a stored agent group. The next call writes exactly
    its own change or says that it stands; the last call for an id decides on it; nobody else is
    touched; a revocation takes back a grant; and the listing shows what is stored. -/
theorem membership_changes_exactly (c : Client) (groupId : UInt64)
    (server : σ → Request → Answer × σ) (stored : σ → List UInt64)
    (store : (groupRoster groupId).IsStore c server stored) (s : σ)
    (calls : List (MemberCall groupId)) :
    let s' := session server (calls.map fun k => k.op c) s
    (∀ k : MemberCall groupId, (groupRoster groupId).Changes (stored s') k.change
      (visit server (k.op c) s').1 (stored (visit server (k.op c) s').2)) ∧
    (∀ x, x ∈ stored s' ↔
      match Change.last? (calls.map MemberCall.change) x with
      | some k => k.grants = true
      | none => x ∈ stored s) ∧
    (stored s').filter (fun m => ∀ k ∈ calls, k.member ≠ m) =
      (stored s).filter (fun m => ∀ k ∈ calls, k.member ≠ m) ∧
    (∀ x (given taken : MemberCall groupId), given.change = .grant x → taken.change = .revoke x →
      x ∉ stored s' → stored (session server [given.op c, taken.op c] s') = stored s') ∧
    ∀ group token, recordId group.id = .ok groupId →
      ∃ p, visit server (Syncer.agentGroups.grants c group token) s' =
          (⟨[(groupRoster groupId).get], .done p⟩, (server s' (groupRoster groupId).get).2) ∧
        (groupRoster groupId).get.sent = ⟨"GET", "groups/" ++ toString groupId, [], none⟩ ∧
        p.items = (stored s').map
          (fun id => Grant.new (groupEntitlement group) ⟨"agent", toString id⟩) ∧
        p.nextToken = "" := by
  intro s'
  have left : stored s' =
      (calls.map MemberCall.change).foldl (groupRoster groupId).apply (stored s) :=
    stored_calls store calls s
  refine ⟨?_, ?_, ?_, ?_, fun group token numbered => ?_⟩
  · intro k
    rw [k.op_eq_change]
    exact Roster.change_visit store k.change s'
  · intro x
    have decides := (groupRoster groupId).mem_ids_foldl (calls.map MemberCall.change) (stored s) x
    rw [groupRoster_ids, groupRoster_ids] at decides
    rw [left]
    exact decides
  · rw [left]
    refine (groupRoster groupId).filter_foldl _ _ (fun m => ∀ k ∈ calls, k.member ≠ m) ?_
    intro k' named
    obtain ⟨k, hk, rfl⟩ := List.mem_map.mp named
    rw [decide_eq_false_iff_not]
    exact fun apart => apart k hk (AccessCall.change_id k.member k.call).symm
  · intro x given taken grants revokes absent
    have twice := stored_calls store [given, taken] s'
    simp only [List.map_cons, List.map_nil, List.foldl_cons, List.foldl_nil, grants,
      revokes] at twice
    rw [twice, (groupRoster groupId).revoke_grant]
    rwa [groupRoster_ids]
  · obtain ⟨p, visited, listed, last⟩ := grants_visit (c := c) store numbered s'
    exact ⟨p, visited, (groupRoster groupId).get_sent, listed, last⟩

def network : Entitlement := groupEntitlement (AgentGroup.resource ⟨3, "Network", none, [], none⟩)

def joins (member : UInt64) : MemberCall 3 where
  call := .grant (agentPrincipal member) network
  member := member
  forAgent := rfl
  ofGroup := recordId_idText agentGroupId 3
  numbered := recordId_idText agentId member

def leaves (member : UInt64) : MemberCall 3 where
  call := .revoke (Grant.new network (agentPrincipal member))
  member := member
  forAgent := rfl
  ofGroup := recordId_idText agentGroupId 3
  numbered := recordId_idText agentId member

def networkServer : List UInt64 → Request → Answer × List UInt64 :=
  (groupRoster 3).listServer fun members => ⟨3, "Network", none, members, none⟩

theorem networkServer_isStore : (groupRoster 3).IsStore acme networkServer fun xs => xs :=
  Roster.listServer_isStore AgentGroup.codec_faithful AgentGroup.codec_fits (by decide)
    (fun _ => rfl) (Client.reaches_of_isOk (by decide +kernel))

theorem network_members_changed :
    let left := session networkServer
      ([joins 7, leaves 2, joins 7].map fun k => k.op acme) [1, 2, 3, 2]
    7 ∈ left ∧ 2 ∉ left ∧
      left.filter (fun m => ∀ k ∈ [joins 7, leaves 2, joins 7], k.member ≠ m) = [1, 3] ∧
      (visit networkServer ((joins 7).op acme) [1, 2, 3, 2]).1.asked.map Request.sent =
        [⟨"GET", "groups/3", [], none⟩,
          ⟨"PUT", "groups/3", [], some "\x7b\"members\":[1,2,3,2,7]\x7d"⟩] := by
  intro left
  obtain ⟨_, decides, others, _⟩ := membership_changes_exactly acme 3 networkServer _
    networkServer_isStore [1, 2, 3, 2] [joins 7, leaves 2, joins 7]
  refine ⟨(decides 7).mpr rfl, fun present => ?_, others, by decide +kernel⟩
  cases (decides 2).mp present

end IdentitySync.Desk
