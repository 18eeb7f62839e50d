import IdentitySync.Desk.Listing
import IdentitySync.Proofs.Desk.Sent
import IdentitySync.Proofs.Http.Run
import IdentitySync.Proofs.Json.Sorted

/-!
What a call makes of an answer. A record in its envelope is what the call gives; a page of a
listing comes with the page that its link names, and a timed out one is an empty last page. Every
call sends one request.
-/
namespace IdentitySync.Desk
open Http

namespace Client

/-- Requests to the endpoint are sent. -/
def Reaches (c : Client) (e : Endpoint) : Prop := ∃ l, Url.parse (c.address e) = .ok l

theorem reaches_of_isOk {c : Client} {e : Endpoint}
    (h : (Url.parse (c.address e)).isOk = true) : c.Reaches e := by
  cases parsed : Url.parse (c.address e) with
  | error _ =>
    rw [parsed] at h
    cases h
  | ok l => exact ⟨l, parsed⟩

end Client

theorem isSuccess_iff {r : Response} : r.isSuccess = true ↔ 200 ≤ r.status ∧ r.status < 300 := by
  rw [Response.isSuccess, Bool.and_eq_true, decide_eq_true_eq, decide_eq_true_eq]

/-- The answer of success with this record in its envelope. Its quota, if it reports one, lies
    within the calendar. -/
structure Delivers (codec : Codec α) (key : String) (a : α) (r : Response) : Prop where
  success : r.isSuccess = true
  quota : (quota? r).isSome = true
  record : decodeBody codec key r = .ok a

theorem delivers_of_toOption {codec : Codec α} {key : String} {a : α} {r : Response}
    (success : r.isSuccess = true) (quota : (quota? r).isSome = true)
    (record : (decodeBody codec key r).toOption = some a) : Delivers codec key a r := by
  refine ⟨success, quota, ?_⟩
  cases read : decodeBody codec key r with
  | error e =>
    rw [read] at record
    cases record
  | ok b =>
    rw [read] at record
    cases record
    rfl

theorem decodeBody_error {codec : Codec α} {key : String} {r : Response} {e : Fault}
    (bad : decodeBody codec key r = .error e) :
    (∃ f, r.body = .error f ∧ e = .transport f) ∨ ∃ detail, e = .badJson detail := by
  rw [decodeBody] at bad
  split at bad
  · rename_i f broken
    cases bad
    exact .inl ⟨f, broken, rfl⟩
  · split at bad
    · cases bad
      exact .inr ⟨_, rfl⟩
    · split at bad
      · cases bad
        exact .inr ⟨_, rfl⟩
      · split at bad
        · cases bad
          exact .inr ⟨_, rfl⟩
        · cases bad

theorem decodeBody_hard {codec : Codec α} {key : String} {r : Response} {e : Fault}
    (bad : decodeBody codec key r = .error e) : e.isSoft = false := by
  rcases decodeBody_error bad with ⟨f, _, rfl⟩ | ⟨detail, rfl⟩
  · rfl
  · rfl

/-- The answer for a page of a listing: records and a link to the page after them, or a time-out. -/
inductive PageAnswer (codec : Codec α) (key : String) :
    List α → Option UInt32 → Response → Prop where
  | records {items : List α} {r : Response} (h : Delivers codec.list key items r) :
      PageAnswer codec key items ((header? r.headers "Link").bind nextPage?) r
  | timedOut {r : Response} (h : r.status = 408) : PageAnswer codec key [] none r

namespace Client

variable {σ : Type} {server : σ → Request → Answer × σ} {s : σ} {c : Client} {r : Response}

theorem send_run {q : Request} (reached : c.Reaches q.endpoint)
    (answer : (server s q).1 = .ok r) :
    (c.send q).run server s =
      (if r.isSuccess then .done r else .fail (faultOf q.endpoint.path r), (server s q).2) := by
  obtain ⟨l, address⟩ := reached
  have target : c.target? q = some (l.target q.query) := by rw [target?, address]
  simp only [send, target, Exchange.run, answer]
  split <;> rfl

theorem send_success {q : Request} (reached : c.Reaches q.endpoint)
    (answer : (server s q).1 = .ok r) (success : r.isSuccess = true) :
    (c.send q).run server s = (.done r, (server s q).2) := by
  rw [send_run reached answer, if_pos success]

theorem op_asks (codec : Codec α) (key : String) (q : Request) (reached : c.Reaches q.endpoint)
    (rest : Reply α → Op β) :
    ∃ next, ((c.reply codec key q).op >>= rest) = .ask q next ∧
      ∀ a r quota, Delivers codec key a r → quota? r = some quota →
        next (.ok r) = rest ⟨a, quota⟩ := by
  obtain ⟨l, address⟩ := reached
  have target : c.target? q = some (l.target q.query) := by rw [target?, address]
  simp only [reply, send, target]
  refine ⟨_, rfl, fun a r quota delivers known => ?_⟩
  simp only [delivers.success, ↓reduceIte, Exchange.follow, withQuota, known, delivers.record]
  rfl

theorem op_ask (codec : Codec α) (key : String) (q : Request) (reached : c.Reaches q.endpoint)
    (rest : Reply α → Op β) :
    ∃ next, ((c.reply codec key q).op >>= rest) = .ask q next ∧
      ∀ a r, Delivers codec key a r → ∃ quota, next (.ok r) = rest ⟨a, quota⟩ := by
  obtain ⟨next, asks, goesOn⟩ := op_asks codec key q reached rest
  refine ⟨next, asks, fun a r delivers => ?_⟩
  obtain ⟨quota, known⟩ := Option.isSome_iff_exists.mp delivers.quota
  exact ⟨quota, goesOn a r quota delivers known⟩

def pageGet (e : Endpoint) (p : PageRequest) : Request := ⟨.get, e, p.query, none⟩

theorem pageGet_sent (e : Endpoint) (page size : UInt32) :
    (pageGet e ⟨page, clampPageSize size⟩).sent = .page e.path page (boundedSize size) := by
  rw [Request.sent, pageGet, PageRequest.query_eq, clampPageSize_eq]
  rfl

/-- The request for a page of a listing that is narrowed down. -/
def pageAsk (e : Endpoint) (p : PageRequest) (more : List (String × String)) : Request :=
  ⟨.get, e, p.query ++ more, none⟩

theorem strictPage_eq (codec : Codec α) (key : String) (e : Endpoint) (p : PageRequest)
    (more : List (String × String)) :
    c.strictPage codec key e p more = (c.send (pageAsk e p more) >>= fun response =>
      withQuota response fun quota =>
        .ofExcept ((decodeBody codec.list key response).map fun items =>
          ⟨items, nextOf response, quota⟩)) := rfl

theorem strictPage_ask_run {codec : Codec α} {key : String} {e : Endpoint} {p : PageRequest}
    {more : List (String × String)} {items : List α} (reached : c.Reaches e)
    (answer : (server s (pageAsk e p more)).1 = .ok r)
    (delivers : Delivers codec.list key items r) :
    ∃ quota, (c.strictPage codec key e p more).run server s =
      (.done ⟨items, (header? r.headers "Link").bind nextPage?, quota⟩,
        (server s (pageAsk e p more)).2) := by
  obtain ⟨quota, known⟩ := Option.isSome_iff_exists.mp delivers.quota
  refine ⟨quota, ?_⟩
  rw [strictPage_eq, Exchange.run_bind_done (send_success (q := pageAsk e p more) reached answer
    delivers.success)]
  simp only [withQuota, known, delivers.record]
  rfl

theorem strictPage_run {codec : Codec α} {key : String} {e : Endpoint} {p : PageRequest}
    {items : List α} (reached : c.Reaches e) (answer : (server s (pageGet e p)).1 = .ok r)
    (delivers : Delivers codec.list key items r) :
    ∃ quota, (c.strictPage codec key e p []).run server s =
      (.done ⟨items, (header? r.headers "Link").bind nextPage?, quota⟩,
        (server s (pageGet e p)).2) := strictPage_ask_run reached answer delivers

theorem faultOf_timedOut {path : String} (h : r.status = 408) :
    (faultOf path r).isSoft = true := by
  simp [faultOf, h, Fault.isSoft]

theorem faultOf_isSoft_iff {path : String} : (faultOf path r).isSoft = true ↔ r.status = 408 := by
  refine ⟨fun soft => ?_, faultOf_timedOut⟩
  by_cases late : r.status = 408
  · exact late
  · rw [faultOf] at soft
    simp only [late, if_false] at soft
    repeat (split at soft; · cases soft)
    cases soft

theorem page_ask_run {codec : Codec α} {key : String} {e : Endpoint} {p : PageRequest}
    {more : List (String × String)} {items : List α} {next : Option UInt32} (reached : c.Reaches e)
    (answer : (server s (pageAsk e p more)).1 = .ok r)
    (stands : PageAnswer codec key items next r) :
    ∃ quota, (c.page codec key e p more).run server s =
      (.done ⟨items, next, quota⟩, (server s (pageAsk e p more)).2) := by
  cases stands with
  | records delivers =>
    obtain ⟨quota, run⟩ := strictPage_ask_run reached answer delivers
    exact ⟨quota, Exchange.run_follow_done run _ _⟩
  | timedOut late =>
    have failed : r.isSuccess = false := by simp [Response.isSuccess, late]
    have sent : (c.send (pageAsk e p more)).run server s =
        (.fail (faultOf (pageAsk e p more).endpoint.path r),
          (server s (pageAsk e p more)).2) := by
      rw [send_run (q := pageAsk e p more) reached answer, if_neg (by simp [failed])]
    have strict := Exchange.run_bind_fail sent fun response => withQuota response fun quota =>
      .ofExcept ((decodeBody codec.list key response).map fun items =>
        (⟨items, nextOf response, quota⟩ : Page α))
    refine ⟨none, ?_⟩
    rw [page, strictPage_eq, Exchange.run_follow_fail strict, if_pos (faultOf_timedOut late)]
    rfl

theorem page_run {codec : Codec α} {key : String} {e : Endpoint} {p : PageRequest}
    {items : List α} {next : Option UInt32} (reached : c.Reaches e)
    (answer : (server s (pageGet e p)).1 = .ok r) (stands : PageAnswer codec key items next r) :
    ∃ quota, (c.page codec key e p []).run server s =
      (.done ⟨items, next, quota⟩, (server s (pageGet e p)).2) :=
  page_ask_run reached answer stands

end Client

def rendered (codec : Codec α) (key : String) (a : α) (headers : List (String × String))
    (receivedAt : Time.Timestamp) : Response :=
  ⟨200, headers, .ok (Json.record [(key, codec.encode a)]).text, receivedAt⟩

theorem enveloped_member {codec : Codec α} {h : Nat} (fits : codec.Fits h)
    (room : h < Json.Machine.depthLimit) (key : String) (a : α) :
    ∃ v inner, Json.parse? (Json.record [(key, codec.encode a)]).text = some v ∧
      memberOf? key v.json = some inner ∧ (codec.encode a).ShownBy inner.document := by
  have envelope : (Json.record [(key, codec.encode a)]).Fits (h + 1) :=
    ⟨List.nodup_cons.mpr ⟨List.not_mem_nil, List.nodup_nil⟩, fits a, trivial⟩
  obtain ⟨v, parsed, shown⟩ := Json.parse?_text envelope room
  obtain ⟨inner, eq, reads⟩ := Json.single_member shown
  refine ⟨v, inner, parsed, ?_, reads⟩
  rw [eq, memberOf?, List.lookup_cons, BEq.rfl]

theorem decodeBody_rendered {codec : Codec α} {h : Nat} (faithful : codec.Faithful)
    (fits : codec.Fits h) (room : h < Json.Machine.depthLimit) (key : String) (a : α)
    (headers : List (String × String)) (receivedAt : Time.Timestamp) :
    decodeBody codec key (rendered codec key a headers receivedAt) = .ok a := by
  obtain ⟨v, inner, parsed, found, shown⟩ := enveloped_member fits room key a
  simp only [decodeBody, rendered, parsed, found, faithful .value a _ shown]

theorem rendered_delivers {codec : Codec α} {h : Nat} (faithful : codec.Faithful)
    (fits : codec.Fits h) (room : h < Json.Machine.depthLimit) (key : String) (a : α)
    {headers : List (String × String)} {receivedAt : Time.Timestamp}
    (quota : (quota? (rendered codec key a headers receivedAt)).isSome = true) :
    Delivers codec key a (rendered codec key a headers receivedAt) :=
  ⟨rfl, quota, decodeBody_rendered faithful fits room key a headers receivedAt⟩

def acme : Client := ⟨"https://acme.freshservice.com/api/v2", "acme", "key", none⟩

def midnight : Time.Timestamp :=
  ⟨⟨2026, 1, 1, by decide, by decide, by decide⟩, 0, 0, by decide, by decide⟩

end IdentitySync.Desk
