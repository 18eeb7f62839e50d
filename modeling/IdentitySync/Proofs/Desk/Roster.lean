import Mathlib.Data.List.Nodup
import IdentitySync.Desk.Connector
import IdentitySync.Proofs.Desk.Answer
import IdentitySync.Proofs.Desk.Record
import IdentitySync.Proofs.Desk.Visit

/-!
Lists of entries that the record of something holds in full, such as the members of a group or the
roles of an agent. A change reads the record, edits the list and writes all of it back. An edit
touches the entries of its own id only, so whatever comes before or between, the entries of other
ids stay as they were.
-/
namespace IdentitySync.Desk
open Http Client

inductive Change where
  | grant (id : UInt64)
  | revoke (id : UInt64)
deriving DecidableEq

namespace Change

def id : Change → UInt64
  | .grant id => id
  | .revoke id => id

def grants : Change → Bool
  | .grant _ => true
  | .revoke _ => false

def remark : Change → Annotation
  | .grant _ => .grantAlreadyExists
  | .revoke _ => .grantAlreadyRevoked

def last? (ks : List Change) (x : UInt64) : Option Change := ks.reverse.find? fun k => k.id = x

theorem last?_cons (k : Change) (ks : List Change) (x : UInt64) :
    last? (k :: ks) x = (last? ks x).or (if k.id = x then some k else none) := by
  rw [last?, List.reverse_cons, List.find?_append]
  by_cases own : k.id = x <;> simp [own, last?]

/-- When every change decides on its own id alone, the last one to an id decides after all. -/
theorem last?_decides {σ : Type} (Has : σ → UInt64 → Prop) {step : σ → Change → σ}
    (ks : List Change) (decides : ∀ k ∈ ks, ∀ s x,
      Has (step s k) x ↔ if x = k.id then k.grants = true else Has s x) (s : σ) (x : UInt64) :
    Has (ks.foldl step s) x ↔
      match last? ks x with
      | some k => k.grants = true
      | none => Has s x := by
  induction ks generalizing s with
  | nil => rfl
  | cons k ks ih =>
    rw [List.foldl_cons, ih fun k' hk => decides k' (List.mem_cons_of_mem _ hk), last?_cons]
    cases last? ks x with
    | some k' => rfl
    | none =>
      simp only [Option.none_or, decides k List.mem_cons_self]
      by_cases own : k.id = x
      · rw [if_pos own.symm, if_pos own]
      · rw [if_neg (Ne.symm own), if_neg own]

end Change

/-- How a record holds its entries: which member of which record has them, in which member of a
    body they are written and how, and what makes an entry of an id. -/
structure Roster (α ρ : Type) where
  endpoint : Endpoint
  path : String
  endpoint_path : endpoint.path = path
  codec : Codec ρ
  envelope : String
  entries : ρ → List α
  item : Codec α
  listKey : String
  entry : α → Json
  item_encode : ∀ a, item.encode a = entry a
  id : α → UInt64
  make : UInt64 → α
  id_make : ∀ x, id (make x) = x
  item_faithful : item.Faithful
  item_fits : item.Fits 2

namespace Roster

variable {α ρ σ : Type} (r : Roster α ρ)

def ids (xs : List α) : List UInt64 := xs.map r.id

/-- A grant puts a new entry at the end, a revocation removes every entry of its id. -/
def edit (xs : List α) : Change → List α
  | .grant x => xs ++ [r.make x]
  | .revoke x => xs.filter fun a => r.id a != x

def Stands (xs : List α) (k : Change) : Prop := k.id ∈ r.ids xs ↔ k.grants = true

instance (xs : List α) (k : Change) : Decidable (r.Stands xs k) :=
  inferInstanceAs (Decidable (_ ↔ _))

theorem stands_grant (xs : List α) (x : UInt64) : r.Stands xs (.grant x) ↔ x ∈ r.ids xs := by
  simp [Stands, Change.id, Change.grants]

theorem stands_revoke (xs : List α) (x : UInt64) : r.Stands xs (.revoke x) ↔ x ∉ r.ids xs := by
  simp [Stands, Change.id, Change.grants]

def apply (xs : List α) (k : Change) : List α := if r.Stands xs k then xs else r.edit xs k

theorem mem_ids_edit (xs : List α) (k : Change) (y : UInt64) :
    y ∈ r.ids (r.edit xs k) ↔ if y = k.id then k.grants = true else y ∈ r.ids xs := by
  cases k with
  | grant x =>
    simp only [ids, edit, List.map_append, List.map_cons, List.map_nil, List.mem_append,
      List.mem_singleton, r.id_make, Change.id, Change.grants]
    by_cases own : y = x <;> simp [own]
  | revoke x =>
    simp only [ids, edit, List.mem_map, List.mem_filter, bne_iff_ne, Change.id, Change.grants]
    by_cases own : y = x
    · subst y
      simp only [↓reduceIte, Bool.false_eq_true, iff_false]
      rintro ⟨a, ⟨_, other⟩, same⟩
      exact other same
    · simp only [own, ↓reduceIte]
      constructor
      · rintro ⟨a, ⟨present, _⟩, same⟩
        exact ⟨a, present, same⟩
      · rintro ⟨a, present, same⟩
        exact ⟨a, ⟨present, same ▸ own⟩, same⟩

theorem mem_ids_apply (xs : List α) (k : Change) (y : UInt64) :
    y ∈ r.ids (r.apply xs k) ↔ if y = k.id then k.grants = true else y ∈ r.ids xs := by
  rw [apply]
  split
  · rename_i stands
    by_cases own : y = k.id
    · rw [own, if_pos rfl]
      exact stands
    · rw [if_neg own]
  · exact r.mem_ids_edit xs k y

theorem filter_edit (xs : List α) (k : Change) (other : UInt64 → Bool)
    (apart : other k.id = false) :
    (r.edit xs k).filter (fun a => other (r.id a)) = xs.filter fun a => other (r.id a) := by
  cases k with
  | grant x =>
    rw [edit, List.filter_append]
    simp only [Change.id] at apart
    simp [r.id_make, apart]
  | revoke x =>
    rw [edit, List.filter_filter]
    refine List.filter_congr fun a _ => ?_
    by_cases own : r.id a = x
    · rw [own]
      simp only [Change.id] at apart
      simp [apart]
    · simp [own]

theorem filter_apply (xs : List α) (k : Change) (other : UInt64 → Bool)
    (apart : other k.id = false) :
    (r.apply xs k).filter (fun a => other (r.id a)) = xs.filter fun a => other (r.id a) := by
  rw [apply]
  split
  · rfl
  · exact r.filter_edit xs k other apart

theorem nodup_edit {xs : List α} {k : Change} (due : ¬r.Stands xs k) (once : (r.ids xs).Nodup) :
    (r.ids (r.edit xs k)).Nodup := by
  cases k with
  | grant x =>
    rw [r.stands_grant] at due
    rw [ids, edit, List.map_append, List.map_cons, List.map_nil, r.id_make]
    refine List.nodup_append.mpr ⟨once, List.nodup_singleton x, ?_⟩
    intro a ha b hb same
    rw [List.mem_singleton] at hb
    rw [same, hb] at ha
    exact due ha
  | revoke x => exact once.sublist (List.filter_sublist.map r.id)

theorem revoke_grant (xs : List α) {x : UInt64} (absent : x ∉ r.ids xs) :
    r.apply (r.apply xs (.grant x)) (.revoke x) = xs := by
  have due : ¬r.Stands xs (.grant x) := by rwa [r.stands_grant]
  have added : r.apply xs (.grant x) = xs ++ [r.make x] := if_neg due
  have there : ¬r.Stands (xs ++ [r.make x]) (.revoke x) := by
    rw [r.stands_revoke, not_not]
    simp [ids, r.id_make]
  rw [added, apply, if_neg there, edit, List.filter_append]
  have kept : xs.filter (fun a => r.id a != x) = xs := by
    refine List.filter_eq_self.mpr fun a ha => ?_
    rw [bne_iff_ne]
    exact fun same => absent (same ▸ List.mem_map_of_mem ha)
  rw [kept]
  simp [r.id_make]

theorem mem_ids_foldl (ks : List Change) (xs : List α) (y : UInt64) :
    y ∈ r.ids (ks.foldl r.apply xs) ↔
      match Change.last? ks y with
      | some k => k.grants = true
      | none => y ∈ r.ids xs :=
  Change.last?_decides (fun xs y => y ∈ r.ids xs) ks (fun k _ xs y => r.mem_ids_apply xs k y)
    xs y

theorem filter_foldl (ks : List Change) (xs : List α) (other : UInt64 → Bool)
    (apart : ∀ k ∈ ks, other k.id = false) :
    (ks.foldl r.apply xs).filter (fun a => other (r.id a)) =
      xs.filter fun a => other (r.id a) := by
  induction ks generalizing xs with
  | nil => rfl
  | cons k ks ih =>
    rw [List.foldl_cons, ih _ fun k' hk => apart k' (List.mem_cons_of_mem k hk)]
    exact r.filter_apply xs k other (apart k List.mem_cons_self)

def body (xs : List α) : Json := .record [(r.listKey, r.item.list.encode xs)]

def listed? (body : Json) : Option (List α) := do
  let v ← Json.parse? body.text
  let inner ← memberOf? r.listKey v.json
  (r.item.list.decode .value inner.document).toOption

theorem listed?_body (xs : List α) : r.listed? (r.body xs) = some xs := by
  have faithful := Codec.list_faithful r.item_faithful
  obtain ⟨v, inner, parsed, found, shown⟩ :=
    enveloped_member (Codec.list_fits r.item_fits) (by decide) r.listKey xs
  simp only [listed?, body, parsed, found, faithful .value xs _ shown, Option.bind_eq_bind,
    Option.bind_some]
  rfl

def get : Request := ⟨.get, r.endpoint, [], none⟩

def put (body : Json) : Request := ⟨.put, r.endpoint, [], some body⟩

def reading : Sent := ⟨"GET", r.path, [], none⟩

def writing (xs : List α) : Sent :=
  ⟨"PUT", r.path, [], some (Json.record [(r.listKey, .list (xs.map r.entry))]).text⟩

theorem get_sent : r.get.sent = r.reading := by
  rw [Request.sent, get, r.endpoint_path]
  rfl

theorem put_sent (xs : List α) : (r.put (r.body xs)).sent = r.writing xs := by
  have written : xs.map r.item.encode = xs.map r.entry :=
    List.map_congr_left fun a _ => r.item_encode a
  rw [Request.sent, put, r.endpoint_path, writing, ← written]
  rfl

def write (c : Client) (xs : List α) : Op Annotations := do
  let updated ← (c.reply r.codec r.envelope (r.put (r.body xs))).op
  .done (Annotations.withRateLimit [] updated.rateLimit)

/-- Reads the entries and, unless the change is there already, writes them back edited. -/
def change (c : Client) (k : Change) : Op Annotations := do
  let record ← (c.reply r.codec r.envelope r.get).op
  if r.Stands (r.entries record.data) k then .done (remarked record.rateLimit k.remark)
  else r.write c (r.edit (r.entries record.data) k)

/-- A server that stores the entries: it answers a read with the record that has them, and a write
    puts the entries of its body in place of the stored ones and answers with the record that has
    those. What else it does is left open. -/
structure IsStore (c : Client) (server : σ → Request → Answer × σ) (stored : σ → List α) :
    Prop where
  reached : c.Reaches r.endpoint
  reads : ∀ s, ∃ answer record, (server s r.get).1 = .ok answer ∧
    Delivers r.codec r.envelope record answer ∧ r.entries record = stored s ∧
    stored (server s r.get).2 = stored s
  writes : ∀ s body xs, r.listed? body = some xs → ∃ answer record,
    (server s (r.put body)).1 = .ok answer ∧ Delivers r.codec r.envelope record answer ∧
    r.entries record = xs ∧ stored (server s (r.put body)).2 = xs

section
variable {r} {c : Client} {server : σ → Request → Answer × σ} {stored : σ → List α}

theorem IsStore.write_body (store : r.IsStore c server stored) (s : σ) (xs : List α) :
    ∃ answer record, (server s (r.put (r.body xs))).1 = .ok answer ∧
      Delivers r.codec r.envelope record answer ∧
      stored (server s (r.put (r.body xs))).2 = xs := by
  obtain ⟨answer, record, answered, delivers, _, now⟩ := store.writes s _ xs (r.listed?_body xs)
  exact ⟨answer, record, answered, delivers, now⟩

theorem change_ask (reached : c.Reaches r.endpoint) (k : Change) :
    ∃ next, r.change c k = .ask r.get next ∧
      ∀ record answer, Delivers r.codec r.envelope record answer → ∃ quota, next (.ok answer) =
        if r.Stands (r.entries record) k then .done (remarked quota k.remark)
        else r.write c (r.edit (r.entries record) k) :=
  op_ask r.codec r.envelope r.get reached _

theorem write_ask (reached : c.Reaches r.endpoint) (xs : List α) :
    ∃ next, r.write c xs = .ask (r.put (r.body xs)) next ∧
      ∀ record answer, Delivers r.codec r.envelope record answer → ∃ quota,
        next (.ok answer) = .done (Annotations.withRateLimit [] quota) :=
  op_ask r.codec r.envelope (r.put (r.body xs)) reached _

/-- A change that is there already only reads, and says so; any other writes the edited entries. -/
structure Changes (r : Roster α ρ) (before : List α) (k : Change) (v : Visit Annotations)
    (after : List α) : Prop where
  course : ∃ remarks, v.outcome = .done remarks ∧
    if r.Stands before k then v.asked = [r.get] ∧ k.remark ∈ remarks ∧ after = before
    else v.asked = [r.get, r.put (r.body after)] ∧ after = r.edit before k ∧
      .grantAlreadyExists ∉ remarks ∧ .grantAlreadyRevoked ∉ remarks
  sent : v.asked.map Request.sent =
    if r.Stands before k then [r.reading] else [r.reading, r.writing after]

theorem remark_mem_remarked (quota : Option RateLimit) (a : Annotation) : a ∈ remarked quota a :=
  List.mem_append_right _ (List.mem_singleton_self a)

theorem no_remark (k : Change) (quota : Option RateLimit) :
    k.remark ∉ Annotations.withRateLimit [] quota := by
  cases quota with
  | none => exact List.not_mem_nil
  | some quota => cases k <;> simp [Annotations.withRateLimit, Change.remark]

theorem change_visit (store : r.IsStore c server stored) (k : Change) (s : σ) :
    r.Changes (stored s) k (visit server (r.change c k) s).1
      (stored (visit server (r.change c k) s).2) := by
  obtain ⟨next, asks, decides⟩ := change_ask store.reached k
  obtain ⟨answer, record, answered, delivers, holds, kept⟩ := store.reads s
  obtain ⟨quota, goesOn⟩ := decides record answer delivers
  rw [holds] at goesOn
  by_cases stands : r.Stands (stored s) k
  · rw [if_pos stands] at goesOn
    have whole := visit_ask asks answered goesOn
    refine ⟨⟨remarked quota k.remark, by rw [whole], ?_⟩, ?_⟩
    · rw [if_pos stands, whole]
      exact ⟨rfl, remark_mem_remarked quota _, kept⟩
    · rw [if_pos stands, whole, List.map_singleton, r.get_sent]
  · rw [if_neg stands] at goesOn
    obtain ⟨next', asks', ends⟩ := write_ask store.reached (r.edit (stored s) k)
    obtain ⟨answer', record', answered', delivers', now⟩ :=
      store.write_body (server s r.get).2 (r.edit (stored s) k)
    obtain ⟨quota', finished⟩ := ends record' answer' delivers'
    have whole : visit server (r.change c k) s =
        (⟨[r.get, r.put (r.body (r.edit (stored s) k))],
            .done (Annotations.withRateLimit [] quota')⟩,
          (server (server s r.get).2 (r.put (r.body (r.edit (stored s) k)))).2) := by
      simp only [visit, asks, Exchange.run, Exchange.recorded, answered, goesOn, asks', answered',
        finished]
      rfl
    refine ⟨⟨Annotations.withRateLimit [] quota', by rw [whole], ?_⟩, ?_⟩
    · rw [if_neg stands, whole, now]
      exact ⟨rfl, rfl, no_remark (.grant k.id) quota', no_remark (.revoke k.id) quota'⟩
    · rw [if_neg stands, whole, now, List.map_cons, List.map_singleton, r.get_sent, r.put_sent]

theorem Changes.apply {before after : List α} {k : Change} {v : Visit Annotations}
    (h : r.Changes before k v after) : after = r.apply before k := by
  obtain ⟨_, _, course⟩ := h.course
  rw [Roster.apply]
  split at course
  · rename_i stands
    rw [if_pos stands]
    exact course.2.2
  · rename_i due
    rw [if_neg due]
    exact course.2.1

theorem stored_session (store : r.IsStore c server stored) (ks : List Change) (s : σ) :
    stored (session server (ks.map (r.change c)) s) = ks.foldl r.apply (stored s) := by
  induction ks generalizing s with
  | nil => rfl
  | cons k ks ih =>
    have first := (change_visit store k s).apply
    simp only [List.map_cons, session, List.foldl_cons] at ih ⊢
    rw [ih, first]

end

def listServer (r : Roster α ρ) (record : List α → ρ) : List α → Request → Answer × List α :=
  fun xs q =>
    match q.method, q.body.bind r.listed? with
    | .get, _ => (.ok (rendered r.codec r.envelope (record xs) [] midnight), xs)
    | .put, some ys => (.ok (rendered r.codec r.envelope (record ys) [] midnight), ys)
    | _, _ => (.ok ⟨400, [], .ok "", midnight⟩, xs)

theorem listServer_isStore {r : Roster α ρ} {record : List α → ρ} {c : Client} {h : Nat}
    (faithful : r.codec.Faithful) (fits : r.codec.Fits h) (room : h < Json.Machine.depthLimit)
    (holds : ∀ xs, r.entries (record xs) = xs) (reached : c.Reaches r.endpoint) :
    r.IsStore c (r.listServer record) fun xs => xs := by
  refine ⟨reached, fun xs => ?_, fun xs body ys listed => ?_⟩
  · exact ⟨_, record xs, rfl, rendered_delivers faithful fits room _ _ rfl, holds xs, rfl⟩
  · have answered : r.listServer record xs (r.put body) =
        (.ok (rendered r.codec r.envelope (record ys) [] midnight), ys) := by
      simp only [listServer, put, Option.bind_some, listed]
    rw [answered]
    exact ⟨_, record ys, rfl, rendered_delivers faithful fits room _ _ rfl, holds ys, rfl⟩

end Roster

end IdentitySync.Desk
