import IdentitySync.Proofs.Desk.CallLog
import IdentitySync.Proofs.Desk.MemberPages

/-!
Changes to the members of a requester group. A change looks through the pages up to the first that
shows the requester, then either says that it is there already or sends one write. What it finds is
what a walk through the grants shows, and after a sequence of changes the last one for a requester
decides.
-/
namespace IdentitySync.Desk
open Http Client

theorem memberChange_endpoint (groupId : UInt64) (k : Change) :
    (memberChange groupId k).endpoint = .member groupId k.id := by
  cases k <;> rfl

/-- What a change asks for to see whether the requester is a member. -/
def Pagination.look (l : Pagination GroupMember) (groupId x : UInt64) : List Request :=
  (l.upTo x l.pages).map fun page => membersGet groupId page 100

def Pagination.looking (l : Pagination GroupMember) (groupId x : UInt64) : List Sent :=
  (l.upTo x l.pages).map fun page =>
    .page ("requester_groups/" ++ toString groupId ++ "/members") page 100

theorem Pagination.look_sent (l : Pagination GroupMember) (groupId x : UInt64) :
    (l.look groupId x).map Request.sent = l.looking groupId x := by
  rw [look, looking, List.map_map]
  exact List.map_congr_left fun page _ => membersGet_sent groupId page 100

def Pagination.Stands (l : Pagination GroupMember) (k : Change) : Prop :=
  l.Has k.id ↔ k.grants = true

/-- A change that is there already looks and says so; any other looks and sends one write. -/
structure LooksThenChanges (groupId : UInt64) (l : Pagination GroupMember) (k : Change)
    (v : Visit Annotations) : Prop where
  stands : l.Stands k → v.asked = l.look groupId k.id ∧
    v.asked.map Request.sent = l.looking groupId k.id ∧
    ∃ remarks, v.outcome = .done remarks ∧ k.remark ∈ remarks
  due : ¬l.Stands k → v.asked = l.look groupId k.id ++ [memberChange groupId k] ∧
    v.asked.map Request.sent = l.looking groupId k.id ++ [memberChanging groupId k] ∧
    ∀ remarks, v.outcome = .done remarks →
      .grantAlreadyExists ∉ remarks ∧ .grantAlreadyRevoked ∉ remarks

/-- A server on which a change adds or removes its requester and nobody else, with an answer of
    success, however it cuts the listing then. -/
structure StoresMembers (c : Client) (server : σ → Request → Answer × σ) (groupId : UInt64)
    (cut : σ → UInt32 → Pagination GroupMember) : Prop extends
    ServesMembers c server groupId cut where
  changed : ∀ s k, ∃ r, (server s (memberChange groupId k)).1 = .ok r ∧ r.isSuccess = true ∧
    (quota? r).isSome = true ∧ ∀ size x, (cut (server s (memberChange groupId k)).2 size).Has x ↔
      if x = k.id then k.grants = true else (cut s size).Has x

variable {σ : Type} {c : Client} {server : σ → Request → Answer × σ} {groupId : UInt64}
  {cut : σ → UInt32 → Pagination GroupMember}

theorem Pagination.stands_iff (l : Pagination GroupMember) (k : Change) :
    l.Stands k ↔ l.pages.any (l.shows k.id) = k.grants := by
  rw [Pagination.Stands, l.has_iff]
  exact Bool.eq_iff_iff.symm

theorem change_looks (serves : ServesMembers c server groupId cut) (k : Change) (s : σ) :
    ∃ quota looked log, cut looked = cut s ∧ log.map Prod.fst = (cut s 100).look groupId k.id ∧
      (RequesterMembership.change c groupId k).run (Exchange.recorded server) (s, []) =
        ((if (cut s 100).pages.any ((cut s 100).shows k.id) = k.grants then
            .done (remarked quota k.remark)
          else (c.acknowledge (memberChange groupId k)).op >>= fun changed =>
            .done (Annotations.withRateLimit [] changed.rateLimit)) : Op Annotations).run
          (Exchange.recorded server) (looked, log) := by
  obtain ⟨quota, ⟨looked, log⟩, scanned, same, asked⟩ :=
    scan_run serves k.id (cut s 100).chain (fun _ onChain => onChain) rfl []
  have found := Exchange.run_mapFailure_done scanned Fault.failure
  exact ⟨quota, looked, log, same, asked, Exchange.run_bind_done found _⟩

theorem stands_visit (serves : ServesMembers c server groupId cut) {k : Change} {s : σ}
    (stands : (cut s 100).Stands k) :
    ∃ quota looked, cut looked = cut s ∧ visit server (RequesterMembership.change c groupId k) s =
      (⟨(cut s 100).look groupId k.id, .done (remarked quota k.remark)⟩, looked) := by
  obtain ⟨quota, looked, log, same, asked, run⟩ := change_looks (c := c) serves k s
  rw [if_pos ((Pagination.stands_iff _ k).mp stands)] at run
  refine ⟨quota, looked, same, ?_⟩
  simp only [visit, run, Exchange.run, asked]

theorem write_run (server : σ → Request → Answer × σ) {q : Request}
    (reached : c.Reaches q.endpoint) (s : σ) :
    ∃ o, ((c.acknowledge q).op >>= fun changed =>
        (.done (Annotations.withRateLimit [] changed.rateLimit) : Op Annotations)).run server s =
          (o, (server s q).2) ∧
      (∀ remarks, o = .done remarks → ∃ quota, remarks = Annotations.withRateLimit [] quota) ∧
      ∀ r, (server s q).1 = .ok r → r.isSuccess = true → (quota? r).isSome = true →
        ∃ remarks, o = .done remarks := by
  obtain ⟨o, sent, given⟩ := asking_run server s (fun _ => .ok ())
    (fun _ quota _ => (⟨(), quota⟩ : Reply Unit)) reached
  have mapped : (c.acknowledge q).op.run server s = _ :=
    Exchange.run_follow _ _ (c.acknowledge q) s
  rw [acknowledge_eq] at mapped ⊢
  have succeeds : ∀ {r}, (server s q).1 = .ok r → r.isSuccess = true → (quota? r).isSome = true →
      ∃ quota, o = .done ⟨(), quota⟩ := by
    intro r answer success known
    obtain ⟨quota, known⟩ := Option.isSome_iff_exists.mp known
    exact ⟨quota, given r quota () answer success known rfl⟩
  rw [sent] at mapped
  cases o with
  | done reply =>
    refine ⟨_, Exchange.run_bind_done mapped _, ?_, fun r _ _ _ => ⟨_, rfl⟩⟩
    intro remarks same
    cases same
    exact ⟨reply.rateLimit, rfl⟩
  | fail e =>
    refine ⟨_, Exchange.run_bind_fail mapped _, nofun, fun r answer success known => ?_⟩
    obtain ⟨_, same⟩ := succeeds answer success known
    cases same
  | crash =>
    refine ⟨_, Exchange.run_follow_crash mapped _ _, nofun, fun r answer success known => ?_⟩
    obtain ⟨_, same⟩ := succeeds answer success known
    cases same

theorem due_visit (serves : ServesMembers c server groupId cut) {k : Change}
    (reached : c.Reaches (.member groupId k.id)) {s : σ} (due : ¬(cut s 100).Stands k) :
    ∃ looked o, cut looked = cut s ∧ visit server (RequesterMembership.change c groupId k) s =
        (⟨(cut s 100).look groupId k.id ++ [memberChange groupId k], o⟩,
          (server looked (memberChange groupId k)).2) ∧
      (∀ remarks, o = .done remarks → ∃ quota, remarks = Annotations.withRateLimit [] quota) ∧
      ∀ r, (server looked (memberChange groupId k)).1 = .ok r → r.isSuccess = true →
        (quota? r).isSome = true → ∃ remarks, o = .done remarks := by
  obtain ⟨_, looked, log, same, asked, run⟩ := change_looks (c := c) serves k s
  rw [if_neg (mt (Pagination.stands_iff _ k).mpr due)] at run
  rw [← memberChange_endpoint] at reached
  obtain ⟨o, sent, plain, given⟩ :=
    write_run (Exchange.recorded server) reached (looked, log)
  rw [sent] at run
  refine ⟨looked, o, same, ?_, plain, given⟩
  simp [visit, run, Exchange.recorded, asked]

theorem change_visits (serves : ServesMembers c server groupId cut) {k : Change}
    (reached : c.Reaches (.member groupId k.id)) (s : σ) :
    LooksThenChanges groupId (cut s 100) k
      (visit server (RequesterMembership.change c groupId k) s).1 := by
  refine ⟨fun stands => ?_, fun due => ?_⟩
  · obtain ⟨quota, looked, _, visited⟩ := stands_visit serves stands
    rw [visited]
    exact ⟨rfl, Pagination.look_sent _ _ _, _, rfl, Roster.remark_mem_remarked quota _⟩
  · obtain ⟨looked, o, _, visited, plain, _⟩ := due_visit serves reached due
    rw [visited]
    refine ⟨rfl, ?_, fun remarks done => ?_⟩
    · rw [List.map_append, List.map_singleton, Pagination.look_sent, memberChange_sent]
    · obtain ⟨quota, rfl⟩ := plain remarks done
      exact ⟨Roster.no_remark (.grant k.id) quota, Roster.no_remark (.revoke k.id) quota⟩

theorem change_done (stores : StoresMembers c server groupId cut) {k : Change}
    (reached : c.Reaches (.member groupId k.id)) (s : σ) :
    ∃ remarks, (visit server (RequesterMembership.change c groupId k) s).1.outcome =
      .done remarks := by
  by_cases stands : (cut s 100).Stands k
  · obtain ⟨quota, looked, _, visited⟩ := stands_visit (c := c) stores.toServesMembers stands
    rw [visited]
    exact ⟨_, rfl⟩
  · obtain ⟨looked, o, _, visited, _, given⟩ := due_visit stores.toServesMembers reached stands
    obtain ⟨r, answer, success, known, _⟩ := stores.changed looked k
    rw [visited]
    exact given r answer success known

theorem change_decides (stores : StoresMembers c server groupId cut) {k : Change}
    (reached : c.Reaches (.member groupId k.id)) (s : σ) (x : UInt64) :
    (cut (visit server (RequesterMembership.change c groupId k) s).2 100).Has x ↔
      if x = k.id then k.grants = true else (cut s 100).Has x := by
  by_cases stands : (cut s 100).Stands k
  · obtain ⟨quota, looked, same, visited⟩ := stands_visit (c := c) stores.toServesMembers stands
    rw [visited, same]
    by_cases own : x = k.id
    · rw [if_pos own, own]
      exact stands
    · rw [if_neg own]
  · obtain ⟨looked, o, same, visited, _⟩ := due_visit stores.toServesMembers reached stands
    obtain ⟨_, _, _, _, decides⟩ := stores.changed looked k
    rw [visited, decides, same]

theorem session_decides (stores : StoresMembers c server groupId cut)
    (calls : List (RequesterCall groupId))
    (reached : ∀ k ∈ calls, c.Reaches (.member groupId k.member)) (s : σ) (x : UInt64) :
    (cut (session server (calls.map fun k => k.op c) s) 100).Has x ↔
      match Change.last? (calls.map RequesterCall.change) x with
      | some k => k.grants = true
      | none => (cut s 100).Has x := by
  have changes : session server (calls.map fun k => k.op c) s =
      (calls.map RequesterCall.change).foldl
        (fun s k => (visit server (RequesterMembership.change c groupId k) s).2) s := by
    rw [session, List.foldl_map, List.foldl_map]
    simp only [RequesterCall.op_eq_change]
  rw [changes]
  refine Change.last?_decides (fun s x => (cut s 100).Has x) _ ?_ s x
  intro change named s x
  obtain ⟨k, hk, rfl⟩ := List.mem_map.mp named
  have own : k.change.id = k.member := AccessCall.change_id k.member k.call
  exact change_decides stores (own ▸ reached k hk) s x

/-- Against a server that serves the members of a group in pages, a change looks through the pages
    up to the first that shows its requester; if it is there already it says so, else it sends its
    one write. A complete walk through the grants shows exactly those requesters, and where writes
    are kept, the last call for a requester decides. -/
theorem looking_listing_and_writing_agree (c : Client) (groupId : UInt64)
    (server : σ → Request → Answer × σ) (cut : σ → UInt32 → Pagination GroupMember)
    (serves : ServesMembers c server groupId cut) :
    (∀ s (k : RequesterCall groupId), c.Reaches (.member groupId k.member) →
      LooksThenChanges groupId (cut s 100) k.change (visit server (k.op c) s).1) ∧
    (∀ s group sizes l, recordId group.id = .ok groupId → (∀ size ∈ sizes, cut s size = l) →
      l.pages.length ≤ sizes.length → ∀ x,
        (∃ g ∈ (walk server (Syncer.requesterGroups.grants c group) sizes "" s).flatMap Visit.items,
          g.principal = ⟨"requester", toString x⟩) ↔ (cut s 100).Has x) ∧
    (StoresMembers c server groupId cut →
      (∀ s (k : RequesterCall groupId), c.Reaches (.member groupId k.member) →
        ∃ remarks, (visit server (k.op c) s).1.outcome = .done remarks) ∧
      ∀ s (calls : List (RequesterCall groupId)),
        (∀ k ∈ calls, c.Reaches (.member groupId k.member)) → ∀ x,
          (cut (session server (calls.map fun k => k.op c) s) 100).Has x ↔
            match Change.last? (calls.map RequesterCall.change) x with
            | some k => k.grants = true
            | none => (cut s 100).Has x) := by
  have named : ∀ {k : RequesterCall groupId}, c.Reaches (.member groupId k.member) →
      c.Reaches (.member groupId k.change.id) := by
    intro k reached
    have own : k.change.id = k.member := AccessCall.change_id k.member k.call
    rwa [own]
  refine ⟨fun s k reached => ?_, fun s group sizes l numbered alike enough x => ?_,
    fun stores => ⟨fun s k reached => ?_, fun s calls reached x => ?_⟩⟩
  · rw [k.op_eq_change]
    exact change_visits serves (named reached) s
  · exact walk_shows_iff serves numbered sizes alike enough x
  · rw [k.op_eq_change]
    exact change_done stores (named reached) s
  · exact session_decides stores calls reached s x

def clubPages (members : List GroupMember) : Pagination GroupMember where
  toPaged := twoPages members
  forward := by
    intro page onChain n follows
    have first : page = 1 ∨ page = 2 := by simpa [twoPages] using onChain
    rcases first with rfl | rfl
    · cases follows
      decide
    · cases follows

/-- The store that keeps the members of one group and shows them on two pages. -/
def clubServer (members : List GroupMember) (q : Request) : Answer × List GroupMember :=
  match q.method, q.endpoint with
  | .get, _ => (.ok (onTwoPages GroupMember.codec "requesters" members q), members)
  | .post, .member _ x => (.ok ⟨201, [], .ok "", midnight⟩, members ++ [⟨x, none, none, none⟩])
  | .delete, .member _ x => (.ok ⟨204, [], .ok "", midnight⟩, members.filter fun m => m.id ≠ x)
  | _, _ => (.ok ⟨400, [], .ok "", midnight⟩, members)

theorem clubPages_has (members : List GroupMember) (x : UInt64) :
    (clubPages members).Has x ↔ ∃ m ∈ members, m.id = x := by
  rw [Pagination.Has, clubPages, twoPages_records]

theorem clubServer_serves (groupId : UInt64) (reached : acme.Reaches (.members groupId)) :
    ServesMembers acme clubServer groupId fun members _ => clubPages members where
  pages :=
    onTwoPages_serves (fun members => members) reached GroupMember.codec_faithful
      GroupMember.codec_fits (by decide) fun _ _ => rfl
  kept := fun _ _ _ => rfl
  same := fun _ _ _ _ => Iff.rfl

theorem clubServer_stores (groupId : UInt64) (reached : acme.Reaches (.members groupId)) :
    StoresMembers acme clubServer groupId fun members _ => clubPages members := by
  refine ⟨clubServer_serves groupId reached, fun members k => ?_⟩
  cases k with
  | grant x =>
    refine ⟨⟨201, [], .ok "", midnight⟩, rfl, rfl, rfl, fun _ y => ?_⟩
    have after : (clubServer members (memberChange groupId (.grant x))).2 =
      members ++ [⟨x, none, none, none⟩] := rfl
    rw [clubPages_has, clubPages_has, after]
    by_cases own : y = x
    · simp [own, Change.id, Change.grants]
    · simp [own, Change.id, Ne.symm own]
  | revoke x =>
    refine ⟨⟨204, [], .ok "", midnight⟩, rfl, rfl, rfl, fun _ y => ?_⟩
    have after : (clubServer members (memberChange groupId (.revoke x))).2 =
      members.filter fun m => m.id ≠ x := rfl
    rw [clubPages_has, clubPages_has, after]
    by_cases own : y = x
    · simp [own, Change.id, Change.grants]
    · simp only [Change.id, own, ↓reduceIte, List.mem_filter, decide_eq_true_eq]
      constructor
      · rintro ⟨m, ⟨present, _⟩, same⟩
        exact ⟨m, present, same⟩
      · rintro ⟨m, present, same⟩
        exact ⟨m, ⟨present, same ▸ own⟩, same⟩

def visitorsGroup : Resource := RequesterGroup.resource ⟨7, "Visitors", none, none⟩

def enters (member : UInt64) : RequesterCall 7 where
  call := .grant (requesterPrincipal member) (requesterGroupEntitlement visitorsGroup)
  member := member
  forRequester := rfl
  ofGroup := recordId_idText requesterGroupId 7
  numbered := recordId_idText requesterId member

def quits (member : UInt64) : RequesterCall 7 where
  call := .revoke (Grant.new (requesterGroupEntitlement visitorsGroup) (requesterPrincipal member))
  member := member
  forRequester := rfl
  ofGroup := recordId_idText requesterGroupId 7
  numbered := recordId_idText requesterId member

theorem club_members_changed :
    let members := [⟨12, none, none, none⟩, ⟨5, none, none, none⟩, ⟨9, none, none, none⟩]
    let left := session clubServer ([enters 4, quits 5, enters 4].map fun k => k.op acme) members
    (∃ m ∈ left, m.id = 4) ∧ (¬∃ m ∈ left, m.id = 5) ∧ (∃ m ∈ left, m.id = 12) ∧
      (visit clubServer ((quits 5).op acme) members).1.asked =
        [membersGet 7 1 100, membersGet 7 2 100, memberChange 7 (.revoke 5)] ∧
      (visit clubServer ((quits 5).op acme) members).1.asked.map
          (fun q => (q.method.name, acme.target? q)) =
        [("GET", some "/api/v2/requester_groups/7/members?page=1&per_page=100"),
          ("GET", some "/api/v2/requester_groups/7/members?page=2&per_page=100"),
          ("DELETE", some "/api/v2/requester_groups/7/members/5")] ∧
      ∃ g ∈ (walk clubServer (Syncer.requesterGroups.grants acme visitorsGroup) [0, 50] ""
        left).flatMap Visit.items, g.principal = ⟨"requester", "4"⟩ := by
  intro members left
  have reached : acme.Reaches (.members 7) := reaches_of_isOk (by decide +kernel)
  have first : acme.Reaches (.member 7 4) := reaches_of_isOk (by decide +kernel)
  have second : acme.Reaches (.member 7 5) := reaches_of_isOk (by decide +kernel)
  have named : ∀ k ∈ [enters 4, quits 5, enters 4], acme.Reaches (.member 7 k.member) := by
    intro k hk
    simp only [List.mem_cons, List.not_mem_nil, or_false] at hk
    rcases hk with rfl | rfl | rfl
    · exact first
    · exact second
    · exact first
  obtain ⟨changes, shows, stored⟩ := looking_listing_and_writing_agree acme 7 clubServer _
    (clubServer_serves 7 reached)
  have decides := (stored (clubServer_stores 7 reached)).2 members _ named
  simp only [clubPages_has] at decides shows
  have there : ∃ m ∈ left, m.id = 4 := (decides 4).mpr rfl
  have due : ¬(clubPages members).Stands (.revoke 5) := by
    rw [Pagination.stands_iff]
    decide
  have asked := ((changes members (quits 5) second).due due).1
  refine ⟨there, fun present => ?_, (decides 12).mpr ⟨_, List.mem_cons_self, rfl⟩, asked, ?_, ?_⟩
  · cases (decides 5).mp present
  · rw [asked]
    decide +kernel
  · exact (shows left visitorsGroup [0, 50] (clubPages left) (recordId_idText requesterGroupId 7)
      (fun _ _ => rfl) (by decide) 4).mpr there

end IdentitySync.Desk
