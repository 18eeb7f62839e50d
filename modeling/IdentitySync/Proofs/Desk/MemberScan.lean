import IdentitySync.Proofs.Desk.Addressing
import IdentitySync.Proofs.Desk.MemberPages
import IdentitySync.Proofs.Desk.OverlongDelay

/-!
Looking for a requester among the members of a group, whatever the server answers and wherever its
links lead. Each page that is asked for lies behind the one before, so there are no more requests
than numbers of pages. The requester is found exactly when a page that came shows him, and is
missing only where the last page leads no further; the first fault ends the scan and is its failure.
The only other end is the crash on an answer whose delay leads beyond the calendar.
-/
namespace IdentitySync.Desk
open Http Exchange Client

/-- The answer is one of success that brings a page of members, with a quota that can be told. -/
inductive Brings : Answer → Page GroupMember → Prop where
  | page {r : Response} {quota : Option RateLimit} {items : List GroupMember}
      (success : r.isSuccess = true) (known : quota? r = some quota)
      (read : decodeBody GroupMember.codec.list "requesters" r = .ok items) :
      Brings (.ok r) ⟨items, nextOf r, quota⟩

inductive Breaks (groupId : UInt64) : Answer → Fault → Prop where
  | lost (f : TransportFault) : Breaks groupId (.error f) (.transport f)
  | refused {r : Response} (refusal : r.isSuccess = false) :
      Breaks groupId (.ok r) (faultOf (Endpoint.members groupId).path r)
  | unreadable {r : Response} {fault : Fault} (success : r.isSuccess = true)
      (bad : decodeBody GroupMember.codec.list "requesters" r = .error fault) :
      Breaks groupId (.ok r) fault

inductive Gives (groupId : UInt64) (answer : Answer) : Outcome Fault (Page GroupMember) → Prop where
  | page {p : Page GroupMember} (brings : Brings answer p) : Gives groupId answer (.done p)
  | broken {fault : Fault} (breaks : Breaks groupId answer fault) :
      Gives groupId answer (.fail fault)
  | upset (upsets : Upsets answer) : Gives groupId answer .crash

def Shows (id : UInt64) (p : Page GroupMember) : Prop := ∃ m ∈ p.items, m.id = id

/-- How the answer for a page ends the scan that asked for it. -/
inductive LastRound (groupId id : UInt64) (page : UInt32) (answer : Answer) :
    Outcome Fault (Bool × Option RateLimit) → Prop where
  | found {p : Page GroupMember} (brings : Brings answer p) (shown : Shows id p) :
      LastRound groupId id page answer (.done (true, p.rateLimit))
  | ended {p : Page GroupMember} (brings : Brings answer p) (absent : ¬Shows id p)
      (last : ∀ next, p.next = some next → next ≤ page) :
      LastRound groupId id page answer (.done (false, p.rateLimit))
  | broken {fault : Fault} (breaks : Breaks groupId answer fault) :
      LastRound groupId id page answer (.fail fault)
  | upset (upsets : Upsets answer) : LastRound groupId id page answer .crash

/-- The course of a scan from a page on. A page without the requester leads to the page that it
    names if that one lies ahead. -/
inductive ScanCourse (groupId id : UInt64) :
    UInt32 → CallLog → Outcome Fault (Bool × Option RateLimit) → Prop where
  | last {page : UInt32} {answer : Answer} {o : Outcome Fault (Bool × Option RateLimit)}
      (round : LastRound groupId id page answer o) :
      ScanCourse groupId id page [(membersGet groupId page 100, answer)] o
  | further {page next : UInt32} {answer : Answer} {p : Page GroupMember} {log : CallLog}
      {o : Outcome Fault (Bool × Option RateLimit)} (brings : Brings answer p)
      (absent : ¬Shows id p) (ahead : page < next) (rest : ScanCourse groupId id next log o) :
      ScanCourse groupId id page ((membersGet groupId page 100, answer) :: log) o

section
variable {c : Client} {groupId id : UInt64} {answer : Answer} {p p' : Page GroupMember}
  {page : UInt32} {log : CallLog} {o : Outcome Fault (Bool × Option RateLimit)}

theorem Brings.unique (h : Brings answer p) (h' : Brings answer p') : p = p' := by
  cases h with
  | page success known read =>
    cases h' with
    | page success' known' read' =>
      rw [known] at known'
      rw [read] at read'
      cases known'
      cases read'
      rfl

theorem Brings.not_breaks (brings : Brings answer p) {fault : Fault} :
    ¬Breaks groupId answer fault := by
  intro breaks
  cases brings with
  | page success known read =>
    cases breaks with
    | refused refusal =>
      rw [success] at refusal
      cases refusal
    | unreadable _ bad =>
      rw [read] at bad
      cases bad

theorem Brings.not_upsets (brings : Brings answer p) : ¬Upsets answer := by
  rintro ⟨r, same, _, beyond⟩
  cases brings with
  | page success known read =>
    cases same
    rw [← quota?_eq_none_iff, known] at beyond
    cases beyond

theorem membersStrict_ends (reached : c.Reaches (.members groupId))
    {o : Outcome Fault (Page GroupMember)}
    (ends : Ends (c.membersStrict groupId ⟨page, 100⟩) log o) :
    ∃ answer, log = [(membersGet groupId page 100, answer)] ∧ Gives groupId answer o := by
  have query : (⟨.get, .members groupId, (PageRequest.mk page 100).query ++ [], none⟩ : Request) =
      membersGet groupId page 100 := by
    rw [membersGet_hundred, List.append_nil]
    rfl
  rw [membersStrict, strictPage_asking, query] at ends
  have sent := asking_sends (q := membersGet groupId page 100) reached ends
  cases asking_ends ends with
  | unsent => exact absurd rfl sent
  | lost f => exact ⟨_, rfl, .broken (.lost f)⟩
  | refused refusal => exact ⟨_, rfl, .broken (.refused refusal)⟩
  | beyond success beyond =>
    exact ⟨_, rfl, .upset ⟨_, rfl, success, (quota?_eq_none_iff _).mp beyond⟩⟩
  | unreadable success bad => exact ⟨_, rfl, .broken (.unreadable success bad)⟩
  | given success known read => exact ⟨_, rfl, .page (.page success known read)⟩

theorem shows_iff_any : Shows id p ↔ (p.items.any fun m => m.id = id) = true := by
  simp only [Shows, List.any_eq_true, decide_eq_true_eq]

theorem following_page {next : UInt32} (ahead : page < next) :
    PageRequest.new next 100 = ⟨next, 100⟩ := by
  have positive : 1 ≤ next := by
    have behind := UInt32.lt_iff_toNat_lt.mp ahead
    exact UInt32.le_iff_toNat_le.mpr (Nat.lt_of_le_of_lt (Nat.zero_le _) behind)
  rw [PageRequest.new, max_one_of_positive positive]
  rfl

/-- Every way in which a scan can end is such a course, by the recursion of the scan. -/
theorem course_of_scan (reached : c.Reaches (.members groupId))
    (ends : Ends (RequesterMembership.scan c groupId id ⟨page, 100⟩) log o) :
    ScanCourse groupId id page log o := by
  -- The size of the pages stays a hundred from round to round, so the page's number is all that the
  -- recursion changes.
  generalize start : PageRequest.mk page 100 = q at ends
  fun_induction RequesterMembership.scan c groupId id q generalizing page log with
  | case1 q ih =>
    subst start
    rcases Ends.of_bind ends with ⟨before, p, after, rfl, first, rest⟩ | ⟨e, first, rfl⟩ |
      ⟨first, rfl⟩
    · obtain ⟨answer, rfl, gives⟩ := membersStrict_ends reached first
      cases gives with
      | page brings =>
        by_cases shown : Shows id p
        · rw [if_pos (shows_iff_any.mp shown)] at rest
          cases rest
          exact .last (.found brings shown)
        · rw [if_neg (mt shows_iff_any.mpr shown)] at rest
          cases follows : p.next with
          | none =>
            rw [follows] at rest
            cases rest
            refine .last (.ended brings shown fun next named => ?_)
            rw [follows] at named
            cases named
          | some next =>
            rw [follows] at rest
            by_cases ahead : page < next
            · simp only [ahead, ↓reduceDIte] at rest
              exact .further brings shown ahead
                (ih next ahead (following_page ahead).symm rest)
            · simp only [ahead, ↓reduceDIte] at rest
              cases rest
              refine .last (.ended brings shown fun next' named => ?_)
              rw [follows] at named
              cases named
              exact UInt32.not_lt.mp ahead
    · obtain ⟨answer, rfl, gives⟩ := membersStrict_ends reached first
      cases gives with
      | broken breaks => exact .last (.broken breaks)
    · obtain ⟨answer, rfl, gives⟩ := membersStrict_ends reached first
      cases gives with
      | upset upsets => exact .last (.upset upsets)

theorem scan_unreached (unreached : ¬c.Reaches (.members groupId)) (q : PageRequest) :
    RequesterMembership.scan c groupId id q = .fail (.transport .interrupted) := by
  have unsent : c.membersStrict groupId q = .fail (.transport .interrupted) := by
    rw [membersStrict, strictPage_asking]
    exact asking_unreached _ _ unreached
  rw [RequesterMembership.scan, unsent]
  rfl

namespace ScanCourse

theorem climbs (course : ScanCourse groupId id page log o) :
    ∃ later, log.map Prod.fst = (page :: later).map (fun page => membersGet groupId page 100) ∧
      (page :: later).Pairwise (· < ·) := by
  induction course with
  | last round => exact ⟨[], rfl, List.pairwise_singleton _ _⟩
  | @further page next _ _ _ _ brings absent ahead rest ih =>
    obtain ⟨later, asked, ordered⟩ := ih
    refine ⟨next :: later, congrArg (List.cons _) asked, .cons ?_ ordered⟩
    intro number within
    rcases List.mem_cons.mp within with rfl | within
    · exact ahead
    · exact UInt32.lt_trans ahead (List.rel_of_pairwise_cons ordered within)

theorem length_le (course : ScanCourse groupId id page log o) :
    log.length + page.toNat ≤ UInt32.size := by
  induction course with
  | @last page _ _ round =>
    have bound : page.toNat < UInt32.size := page.toNat_lt
    rw [List.length_singleton]
    omega
  | further brings absent ahead rest ih =>
    have climbed := UInt32.lt_iff_toNat_lt.mp ahead
    rw [List.length_cons]
    omega

theorem parts (course : ScanCourse groupId id page log o) :
    ∃ before last answer, log = before ++ [(membersGet groupId last 100, answer)] ∧
      (∀ x ∈ before, ∃ p, Brings x.2 p ∧ ¬Shows id p) ∧ LastRound groupId id last answer o := by
  induction course with
  | @last page answer _ round => exact ⟨[], page, answer, rfl, List.forall_mem_nil _, round⟩
  | @further page _ answer p _ _ brings absent ahead rest ih =>
    obtain ⟨before, last, answer', split, passed, round⟩ := ih
    refine ⟨_ :: before, last, answer', congrArg (List.cons _) split, ?_, round⟩
    exact List.forall_mem_cons.mpr ⟨⟨p, brings, absent⟩, passed⟩

end ScanCourse

def ShownBy (id : UInt64) (answer : Answer) : Prop := ∃ p, Brings answer p ∧ Shows id p

theorem Brings.not_shownBy (brings : Brings answer p) (absent : ¬Shows id p) :
    ¬ShownBy id answer := by
  rintro ⟨p', brings', shown⟩
  exact absent (brings.unique brings' ▸ shown)

theorem LastRound.found_iff (round : LastRound groupId id page answer o) :
    (∃ quota, o = .done (true, quota)) ↔ ShownBy id answer := by
  cases round with
  | found brings shown => exact ⟨fun _ => ⟨_, brings, shown⟩, fun _ => ⟨_, rfl⟩⟩
  | ended brings absent last =>
    refine iff_of_false ?_ (brings.not_shownBy absent)
    rintro ⟨quota, same⟩
    cases same
  | broken breaks =>
    refine iff_of_false ?_ fun ⟨_, brings, _⟩ => brings.not_breaks breaks
    rintro ⟨quota, same⟩
    cases same
  | upset upsets =>
    refine iff_of_false ?_ fun ⟨_, brings, _⟩ => brings.not_upsets upsets
    rintro ⟨quota, same⟩
    cases same

structure Scanned (groupId id : UInt64) (log : CallLog)
    (o : Outcome Fault (Bool × Option RateLimit)) : Prop where
  climbs : ∃ later : List UInt32,
    log.map Prod.fst = (1 :: later).map (fun page => membersGet groupId page 100) ∧
      log.map (fun x => x.1.sent) = (1 :: later).map (fun page =>
        .page ("requester_groups/" ++ toString groupId ++ "/members") page 100) ∧
      (1 :: later).Pairwise (· < ·)
  few : log.length ≤ 2 ^ 32 - 1
  found : (∃ quota, o = .done (true, quota)) ↔ ∃ x ∈ log, ShownBy id x.2
  missing : ∀ quota, o = .done (false, quota) → ∃ before last answer p,
    log = before ++ [(membersGet groupId last 100, answer)] ∧ Brings answer p ∧
      ∀ next, p.next = some next → next ≤ last
  broken : ∀ fault, o = .fail fault → ∃ before x, log = before ++ [x] ∧
    (∀ y ∈ before, ∃ p, Brings y.2 p) ∧ Breaks groupId x.2 fault
  crashes : o = .crash ↔ ∃ x ∈ log, Upsets x.2

theorem ScanCourse.scanned (course : ScanCourse groupId id 1 log o)
    (crashes : o = .crash ↔ ∃ x ∈ log, Upsets x.2) : Scanned groupId id log o := by
  obtain ⟨before, last, answer, split, passed, round⟩ := course.parts
  obtain ⟨later, asked, ordered⟩ := course.climbs
  refine ⟨⟨later, asked, ?_, ordered⟩, ?_, ?_, ?_, ?_, crashes⟩
  · have texts := congrArg (List.map Request.sent) asked
    rw [List.map_map, List.map_map] at texts
    refine texts.trans (List.map_congr_left fun page _ => ?_)
    exact membersGet_sent groupId page 100
  · have bound := course.length_le
    have first : (1 : UInt32).toNat = 1 := rfl
    rw [first, UInt32.size] at bound
    omega
  · rw [round.found_iff, split]
    constructor
    · exact fun shown => ⟨_, List.mem_append_right _ (List.mem_singleton_self _), shown⟩
    · rintro ⟨x, hx, shown⟩
      rcases List.mem_append.mp hx with hx | hx
      · obtain ⟨p, brings, absent⟩ := passed x hx
        exact absurd shown (brings.not_shownBy absent)
      · rwa [List.mem_singleton.mp hx] at shown
  · intro quota same
    subst same
    cases round with
    | ended brings absent leadsOn => exact ⟨before, last, answer, _, split, brings, leadsOn⟩
  · intro fault same
    subst same
    cases round with
    | broken breaks =>
      refine ⟨before, _, split, fun y hy => ?_, breaks⟩
      obtain ⟨p, brings, _⟩ := passed y hy
      exact ⟨p, brings⟩

end

/-- Looking for a member always stops. Without an address nothing is asked. Else, whatever the
    server answers and remembers, the pages that are asked for increase from the first one on, each
    with a hundred members; the requester is found exactly when an answer shows him, and missing
    only where the last page names none that lies ahead; a failure is the first fault that was met;
    and the scan crashes exactly when an answer of success leads beyond the calendar. -/
theorem looking_for_member_stops {σ : Type} (c : Client) (groupId id : UInt64)
    (server : σ → Request → Answer × σ) (s : σ) :
    let scan := RequesterMembership.isMember c groupId id
    (c.Reaches (.members groupId) →
      Scanned groupId id (scan.log server s) (scan.run server s).1) ∧
    (¬c.Reaches (.members groupId) →
      scan.log server s = [] ∧ (scan.run server s).1 = .fail (.transport .interrupted)) := by
  intro scan
  constructor
  · intro reached
    have crashes := (scan_crashesOn c groupId id .first).run_iff server s
    exact (course_of_scan reached (ends_of_run server scan s)).scanned crashes.1
  · intro unreached
    have unsent : scan = .fail (.transport .interrupted) := scan_unreached unreached .first
    rw [unsent]
    exact ⟨rfl, rfl⟩

def leadingTo (page : UInt32) (members : String) : Response :=
  ⟨200, [("Link", "<https://acme.test?page=" ++ Text.numeral page.toNat ++ ">; rel=\"next\"")],
    .ok ("\x7b\"requesters\":[" ++ members ++ "]\x7d"), midnight⟩

/-- Links to page 7, then back to page 2, whatever page is asked for; the second page shows
    requester 5. -/
def wanderingServer : Nat → Request → Answer × Nat
  | 0, _ => (.ok (leadingTo 7 ""), 1)
  | count, _ => (.ok (leadingTo 2 "\x7b\"id\":5\x7d"), count + 1)

theorem wandering_links_are_left :
    let log := fun id => (RequesterMembership.isMember acme 7 id).log wanderingServer 0
    let outcome := fun id => ((RequesterMembership.isMember acme 7 id).run wanderingServer 0).1
    (log 12).map (fun x => acme.target? x.1) =
        [some "/api/v2/requester_groups/7/members?page=1&per_page=100",
          some "/api/v2/requester_groups/7/members?page=7&per_page=100"] ∧
      outcome 12 = .done (false, none) ∧
      (∃ before last answer p, log 12 = before ++ [(membersGet 7 last 100, answer)] ∧
        Brings answer p ∧ ∀ next, p.next = some next → next ≤ last) ∧
      outcome 5 = .done (true, none) ∧ ∃ x ∈ log 5, ShownBy 5 x.2 := by
  intro log outcome
  have scanned := fun id =>
    (looking_for_member_stops acme 7 id wanderingServer 0).1 (acme_reaches _)
  have absent : outcome 12 = .done (false, none) := Outcome.eq_done (by decide +kernel)
  have present : outcome 5 = .done (true, none) := Outcome.eq_done (by decide +kernel)
  exact ⟨by decide +kernel, absent, (scanned 12).missing none absent, present,
    (scanned 5).found.mp ⟨none, present⟩⟩

def patientPage : Response :=
  ⟨200, [("Retry-After", "9223372036854776")],
    .ok "\x7b\"requesters\":[\x7b\"id\":12\x7d]\x7d", midnight⟩

theorem overlong_delay_hides_member :
    patientPage.isSuccess = true ∧
      (decodeBody GroupMember.codec.list "requesters" patientPage).toOption.map
        (fun members => members.map GroupMember.id) = some [12] ∧
      ((RequesterMembership.isMember acme 7 12).run (constantServer patientPage) ()).1 =
        .crash := by
  have crashes : isCrash ((RequesterMembership.isMember acme 7 12).run
      (constantServer patientPage) ()).1 = true := by
    decide +kernel
  exact ⟨by decide, by decide +kernel, eq_crash_of_isCrash crashes⟩

end IdentitySync.Desk
