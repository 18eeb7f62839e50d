import IdentitySync.Proofs.Desk.OverlongDelay

/-!
What the check of the credentials proves. It lists one agent, so it ends well when the answer has a
list of agents; but a listing takes an answer that came too late for an empty last page, and so does
the check. All other answers fail, and so does the lack of one.
-/
namespace IdentitySync

namespace Document

theorem decodeItems_isOk {decode : Document → Decoded α} {ds : List Document} :
    (∃ xs, decodeItems decode ds = .ok xs) ↔ ∀ d ∈ ds, ∃ a, decode d = .ok a := by
  induction ds with
  | nil => exact ⟨fun _ d hd => absurd hd List.not_mem_nil, fun _ => ⟨[], rfl⟩⟩
  | cons d ds ih =>
    rw [List.forall_mem_cons, ← ih]
    cases first : decode d with
    | error e =>
      simp [decodeItems, first]
    | ok a =>
      cases rest : decodeItems decode ds with
      | error e => simp [decodeItems, first, rest, Except.map]
      | ok xs => simp [decodeItems, first, rest, Except.map]

end Document

namespace Desk
open Http Exchange

variable {α β : Type} {c : Client} {log : CallLog} {r : Response}

/-- An answer of success whose body is an object with a list of records under the key. -/
structure ListsRecords (codec : Codec α) (key : String) (r : Response) : Prop where
  success : 200 ≤ r.status ∧ r.status < 300
  body : ∃ text v members items, r.body = .ok text ∧ Json.parse? text = some v ∧
    v.json = .record members ∧ members.lookup key = some (.list items) ∧
    ∀ item ∈ items, ∃ a, codec.decode .value item.document = .ok a

theorem list_decode_isOk {codec : Codec α} {j : Json} :
    (∃ xs, codec.list.decode .value j.document = .ok xs) ↔ ∃ items, j = .list items ∧
      ∀ item ∈ items, ∃ a, codec.decode .value item.document = .ok a := by
  cases j with
  | list items =>
    have read : ∀ xs, codec.list.decode .value (Json.list items).document = .ok xs ↔
        Document.decodeItems (codec.decode .value) (items.map Json.document) = .ok xs := by
      intro xs
      rw [← Json.documents_eq_map, Json.document]
      simp only [Codec.list, Document.decodeList, Source.place]
      cases Document.decodeItems (codec.decode .value) (Json.documents items) <;> rfl
    simp only [read, Document.decodeItems_isOk, List.forall_mem_map, Json.list.injEq,
      exists_eq_left']
  | null | bool | number | string | record =>
    constructor
    · rintro ⟨_, listed⟩
      cases listed
    · rintro ⟨_, other, _⟩
      cases other

theorem memberOf?_eq_some {key : String} {j inner : Json} :
    memberOf? key j = some inner ↔
      ∃ members, j = .record members ∧ members.lookup key = some inner := by
  cases j with
  | record members => simp [memberOf?]
  | null | bool | number | string | list => simp [memberOf?]

theorem listsRecords_iff {codec : Codec α} {key : String} :
    ListsRecords codec key r ↔
      r.isSuccess = true ∧ ∃ xs, decodeBody codec.list key r = .ok xs := by
  have success : r.isSuccess = true ↔ 200 ≤ r.status ∧ r.status < 300 := by
    simp [Response.isSuccess]
  rw [success]
  constructor
  · rintro ⟨ok, text, v, members, items, body, parsed, record, found, readable⟩
    obtain ⟨xs, read⟩ := list_decode_isOk.mpr ⟨items, rfl, readable⟩
    refine ⟨ok, xs, ?_⟩
    simp only [decodeBody, body, parsed, memberOf?_eq_some.mpr ⟨members, record, found⟩, read]
  · rintro ⟨ok, xs, decoded⟩
    refine ⟨ok, ?_⟩
    rw [decodeBody] at decoded
    split at decoded
    · cases decoded
    · rename_i text body
      split at decoded
      · cases decoded
      · rename_i v parsed
        split at decoded
        · cases decoded
        · rename_i inner member
          obtain ⟨members, record, found⟩ := memberOf?_eq_some.mp member
          split at decoded
          · cases decoded
          · rename_i read
            obtain ⟨items, rfl, readable⟩ := list_decode_isOk.mp ⟨_, read⟩
            exact ⟨text, v, members, items, body, parsed, record, found, readable⟩

theorem within_of_known {quota : Option RateLimit} (known : quota? r = some quota) :
    ¬LeadsBeyond r := by
  rw [← quota?_eq_none_iff, known]
  exact nofun

namespace Answered

variable {γ ε : Type} {q : Request} {report : Fault → ε} {read : Response → Except Fault γ}
  {make : Response → Option RateLimit → γ → α} {o : Outcome ε α}

theorem once (h : Answered q report read make log o) :
    log = [] ∨ ∃ answer, log = [(q, answer)] := by
  cases h with
  | unsent => exact .inl rfl
  | lost f => exact .inr ⟨_, rfl⟩
  | refused refusal => exact .inr ⟨_, rfl⟩
  | beyond success beyond => exact .inr ⟨_, rfl⟩
  | unreadable success bad => exact .inr ⟨_, rfl⟩
  | given success known good => exact .inr ⟨_, rfl⟩

theorem refused_of_log (h : Answered q report read make log o) (asked : log = [(q, .ok r)])
    (refusal : r.isSuccess = false) : o = .fail (report (faultOf q.endpoint.path r)) := by
  subst asked
  cases h with
  | refused _ => rfl
  | beyond success beyond => exact absurd success (by simp [refusal])
  | unreadable success bad => exact absurd success (by simp [refusal])
  | given success known good => exact absurd success (by simp [refusal])

theorem done_iff {codec : Codec α} {key : String}
    {make : Response → Option RateLimit → List α → β} {o : Outcome ε β}
    (h : Answered q report (decodeBody codec.list key) make log o) :
    (∃ a, o = .done a) ↔
      ∃ r, log = [(q, .ok r)] ∧ ListsRecords codec key r ∧ ¬LeadsBeyond r := by
  constructor
  · rintro ⟨a, rfl⟩
    cases h with
    | given success known good =>
      exact ⟨_, rfl, listsRecords_iff.mpr ⟨success, _, good⟩, within_of_known known⟩
  · rintro ⟨r, rfl, lists, within⟩
    obtain ⟨success, xs, good⟩ := listsRecords_iff.mp lists
    cases h with
    | refused refusal => exact absurd success (by simp [refusal])
    | beyond _ beyond => exact absurd ((quota?_eq_none_iff r).mp beyond) within
    | unreadable _ bad =>
      rw [good] at bad
      cases bad
    | given => exact ⟨_, rfl⟩

end Answered

def agentsProbe : Request := ⟨.get, .agents, [("page", "1"), ("per_page", "1")], none⟩

theorem validate_ends {c : Connector} {o : Outcome Failure Annotations}
    (ends : Ends c.validate log o) :
    (∃ r, r.status = 408 ∧ log = [(agentsProbe, .ok r)] ∧ o = .done []) ∨
      (Answered agentsProbe Fault.failure (decodeBody Agent.codec.list "agents")
        (fun _ quota _ => Annotations.withRateLimit [] quota) log o ∧
        ∀ r, (agentsProbe, .ok r) ∈ log → r.status ≠ 408) := by
  have probe : Client.pageAsk .agents (.new 1 1) [] = agentsProbe := by
    have query : (PageRequest.new 1 1).query ++ [] = agentsProbe.query := by decide +kernel
    rw [Client.pageAsk, query]
    rfl
  obtain ⟨_, fetched, rfl⟩ := Ends.of_follow_map (f := id)
    (g := fun page : Page Agent => Annotations.withRateLimit [] page.rateLimit) ends
  obtain ⟨_, page, rfl⟩ := Ends.of_follow_map (g := id) fetched
  have answered := Client.page_ends page
  rw [probe] at answered
  rcases answered with ⟨r, late, rfl, rfl⟩ | ⟨strict, inTime⟩
  · exact .inl ⟨r, late, rfl, rfl⟩
  · exact .inr ⟨(strict.map Fault.failure id).map id fun page : Page Agent =>
      Annotations.withRateLimit [] page.rateLimit, inTime⟩

/-- The check sends one probe at most. It ends well exactly when the probe was answered with a list
    of agents, or too late, and without a result exactly when an answer of success leads beyond the
    calendar. Every other refusal is the failure that its status stands for. -/
theorem validation_ends_well_iff {σ : Type} (c : Connector)
    (server : σ → Request → Answer × σ) (s : σ) :
    let log := c.validate.log server s
    let o := (c.validate.run server s).1
    (log = [] ∨ ∃ answer, log = [(agentsProbe, answer)]) ∧
    ((∃ notes, o = .done notes) ↔ ∃ r, log = [(agentsProbe, .ok r)] ∧
      (r.status = 408 ∨ (ListsRecords Agent.codec "agents" r ∧ ¬LeadsBeyond r))) ∧
    (o = .crash ↔ ∃ r, log = [(agentsProbe, .ok r)] ∧ r.isSuccess = true ∧ LeadsBeyond r) ∧
    ∀ r, log = [(agentsProbe, .ok r)] → r.isSuccess = false → r.status ≠ 408 →
      o = .fail (faultOf agentsProbe.endpoint.path r).failure := by
  intro log o
  have ends := validate_ends (ends_of_run server c.validate s)
  have once : log = [] ∨ ∃ answer, log = [(agentsProbe, answer)] := by
    rcases ends with ⟨r, _, one, _⟩ | ⟨answered, _⟩
    · exact .inr ⟨_, one⟩
    · exact answered.once
  have crashes : o = .crash ↔ ∃ x ∈ log, Upsets x.2 :=
    (crashesExactly (validate_crashesOn c) σ server s).1
  refine ⟨once, ?_, ?_, ?_⟩
  · rcases ends with ⟨r, late, one, ended⟩ | ⟨answered, inTime⟩
    · exact ⟨fun _ => ⟨r, one, .inl late⟩, fun _ => ⟨[], ended⟩⟩
    · constructor
      · intro well
        obtain ⟨r, asked, proven⟩ := answered.done_iff.mp well
        exact ⟨r, asked, .inr proven⟩
      · rintro ⟨r, asked, late | proven⟩
        · refine absurd late (inTime r ?_)
          show _ ∈ log
          rw [asked]
          exact List.mem_cons_self
        · exact answered.done_iff.mpr ⟨r, asked, proven⟩
  · rw [crashes]
    constructor
    · rintro ⟨x, hx, r, answer, success, beyond⟩
      rcases once with none | ⟨_, one⟩
      · rw [none] at hx
        cases hx
      · rw [one] at hx
        cases List.mem_singleton.mp hx
        cases answer
        exact ⟨r, one, success, beyond⟩
    · rintro ⟨r, asked, success, beyond⟩
      exact ⟨_, by rw [asked]; exact List.mem_cons_self, r, rfl, success, beyond⟩
  · intro r asked refusal inTime
    rcases ends with ⟨r', late, one, _⟩ | ⟨answered, _⟩
    · cases asked.symm.trans one
      exact absurd late inTime
    · exact answered.refused_of_log asked refusal

def unknownKey : Response := ⟨401, [], .ok "", midnight⟩

theorem unknown_key_fails_validation :
    ((Connector.validate ⟨acme, false⟩).run (constantServer unknownKey) ()).1 =
      .fail .authenticationFailed := by
  obtain ⟨once, _, _, refused⟩ :=
    validation_ends_well_iff ⟨acme, false⟩ (constantServer unknownKey) ()
  have sent : ((Connector.validate ⟨acme, false⟩).log (constantServer unknownKey) ()).length =
      1 := by
    decide +kernel
  rcases once with none | ⟨answer, one⟩
  · rw [none] at sent
    cases sent
  · obtain ⟨_, given⟩ := answer_of_log (one ▸ List.mem_cons_self)
    cases given
    exact refused unknownKey one (by decide) (by decide)

def lateAnswer : Response := ⟨408, [], .ok "", midnight⟩

theorem late_answer_validates :
    let check := Connector.validate ⟨acme, false⟩
    (check.run (constantServer lateAnswer) ()).1 = .done [] ∧
    (check.log (constantServer lateAnswer) ()).map
      (fun x => (x.1.method, x.1.endpoint, x.1.query)) =
        [(agentsProbe.method, agentsProbe.endpoint, agentsProbe.query)] ∧
    (check.log (constantServer lateAnswer) ()).map (fun x => acme.target? x.1) =
      [some "/api/v2/agents?page=1&per_page=1"] ∧
    lateAnswer.isSuccess = false ∧ ¬ListsRecords Agent.codec "agents" lateAnswer := by
  intro check
  refine ⟨Outcome.eq_done (by decide +kernel), by decide +kernel, by decide +kernel, by decide,
    fun lists => ?_⟩
  exact absurd lists.success (by decide)

end Desk

end IdentitySync
