import IdentitySync.Proofs.Desk.MemberChanges
import IdentitySync.Proofs.Http.Race

/-!
Changes of one list that race with each other. A write does not notice other writers, so it may put
back what another call removed or drop what it added. What it cannot do is touch an entry that no
racing call names: the store, and every list that a call has read and not yet written, agree on
those entries at all times.
-/
namespace IdentitySync.Desk
open Http

namespace Roster

variable {α ρ σ : Type}

/-- The list has the same entries of these ids as at first, and no id twice if none was so. -/
def Spares (r : Roster α ρ) (other : UInt64 → Bool) (initial xs : List α) : Prop :=
  (xs.filter fun a => other (r.id a)) = (initial.filter fun a => other (r.id a)) ∧
    ((r.ids initial).Nodup → (r.ids xs).Nodup)

/-- Where a racing change stands: it has not read yet, it is about to write the edited form of a
    list that it saw, or it is done. -/
inductive Stage (r : Roster α ρ) (c : Client) (k : Change) (Saw : List α → Prop) :
    Op Annotations → Prop where
  | reading : Stage r c k Saw (r.change c k)
  | writing {xs : List α} (saw : Saw xs) (due : ¬r.Stands xs k) :
      Stage r c k Saw (r.write c (r.edit xs k))
  | finished (remarks : Annotations) : Stage r c k Saw (.done remarks)

variable {r : Roster α ρ} {c : Client} {server : σ → Request → Answer × σ} {stored : σ → List α}
  {k : Change} {other : UInt64 → Bool} {initial : List α}

theorem spares_edit {xs : List α} (apart : other k.id = false) (due : ¬r.Stands xs k)
    (spares : r.Spares other initial xs) : r.Spares other initial (r.edit xs k) := by
  obtain ⟨same, once⟩ := spares
  exact ⟨(r.filter_edit xs k other apart).trans same, fun first => r.nodup_edit due (once first)⟩

theorem stage_ask (reached : c.Reaches r.endpoint) {Saw : List α → Prop} {q : Request}
    {next : Answer → Op Annotations} (stage : r.Stage c k Saw (.ask q next)) :
    (q = r.get ∧ r.change c k = .ask r.get next) ∨
      ∃ xs, Saw xs ∧ ¬r.Stands xs k ∧ q = r.put (r.body (r.edit xs k)) ∧
        r.write c (r.edit xs k) = .ask q next := by
  generalize same : Exchange.ask q next = op at stage
  cases stage with
  | reading =>
    obtain ⟨_, asks, _⟩ := change_ask reached k
    rw [asks] at same
    cases same
    exact .inl ⟨rfl, asks⟩
  | writing saw due =>
    obtain ⟨_, asks, _⟩ := write_ask reached (r.edit _ k)
    rw [asks] at same
    cases same
    exact .inr ⟨_, saw, due, rfl, rfl⟩
  | finished remarks => cases same

theorem stage_step (store : r.IsStore c server stored) (apart : other k.id = false) (s : σ)
    {q : Request} {next : Answer → Op Annotations}
    (spares : r.Spares other initial (stored s))
    (stage : r.Stage c k (r.Spares other initial) (.ask q next)) :
    r.Spares other initial (stored (server s q).2) ∧
      r.Stage c k (r.Spares other initial) (next (server s q).1) := by
  rcases stage_ask store.reached stage with ⟨rfl, asks⟩ | ⟨xs, saw, due, rfl, asks⟩
  · obtain ⟨_, asks', decides⟩ := change_ask store.reached k
    rw [asks] at asks'
    cases asks'
    obtain ⟨answer, record, answered, delivers, holds, kept⟩ := store.reads s
    obtain ⟨quota, goesOn⟩ := decides record answer delivers
    rw [kept, answered, goesOn, holds]
    refine ⟨spares, ?_⟩
    by_cases stands : r.Stands (stored s) k
    · rw [if_pos stands]
      exact .finished _
    · rw [if_neg stands]
      exact .writing spares stands
  · obtain ⟨_, asks', ends⟩ := write_ask store.reached (r.edit xs k)
    rw [asks] at asks'
    cases asks'
    obtain ⟨answer, record, answered, delivers, now⟩ := store.write_body s (r.edit xs k)
    obtain ⟨quota, finished⟩ := ends record answer delivers
    rw [now, answered, finished]
    exact ⟨spares_edit apart due saw, .finished _⟩

theorem write_decides (store : r.IsStore c server stored) (s : σ) {Saw : List α → Prop}
    {q : Request} {next : Answer → Op Annotations} (stage : r.Stage c k Saw (.ask q next))
    (write : q.isWrite = true) :
    k.id ∈ r.ids (stored (server s q).2) ↔ k.grants = true := by
  rcases stage_ask store.reached stage with ⟨rfl, _⟩ | ⟨xs, _, _, rfl, _⟩
  · cases write
  · obtain ⟨_, _, _, _, now⟩ := store.write_body s (r.edit xs k)
    rw [now, r.mem_ids_edit, if_pos rfl]

/-- Whatever the order of their reads and writes, these changes leave the entries of all other ids
    as they are and make no id come twice, and right after a write the id of its change is there
    exactly if the change is a grant. -/
def SurvivesRaces (r : Roster α ρ) (server : σ → Request → Answer × σ) (stored : σ → List α)
    {n : Nat} (ops : Fin n → Op Annotations) (changes : Fin n → Change) : Prop :=
  ∀ (s : σ) (race : Race (Fin n) Request Answer Failure Annotations σ),
    Race.Reaches server ⟨ops, s⟩ race →
    ((stored race.state).filter fun a => ∀ i, (changes i).id ≠ r.id a) =
      ((stored s).filter fun a => ∀ i, (changes i).id ≠ r.id a) ∧
    ((r.ids (stored s)).Nodup → (r.ids (stored race.state)).Nodup) ∧
    ∀ i q next, race.ops i = .ask q next → q.isWrite = true →
      ((changes i).id ∈ r.ids (stored (server race.state q).2) ↔ (changes i).grants = true)

theorem survivesRaces (store : r.IsStore c server stored) {n : Nat} (changes : Fin n → Change) :
    r.SurvivesRaces server stored (fun i => r.change c (changes i)) changes := by
  intro s race run
  let other : UInt64 → Bool := fun x => ∀ i, (changes i).id ≠ x
  have apart : ∀ i, other (changes i).id = false := by
    intro i
    rw [decide_eq_false_iff_not]
    exact fun all => all i rfl
  obtain ⟨spares, stages⟩ := Race.reaches_invariant
    (fun i s q next => stage_step store (apart i) s) run
    ⟨(⟨rfl, fun once => once⟩ : r.Spares other (stored s) (stored s)), fun i => .reading⟩
  refine ⟨spares.1, spares.2, fun i q next asks write => ?_⟩
  have stage := stages i
  rw [asks] at stage
  exact write_decides store race.state stage write

section
variable {ι : Type} [DecidableEq ι] {race : Race ι Request Answer Failure Annotations σ} {i : ι}

theorem read_step (store : r.IsStore c server stored) (reads : race.ops i = r.change c k)
    (due : ¬r.Stands (stored race.state) k) :
    ∃ after, Race.Step server race after ∧
      after.ops i = r.write c (r.edit (stored race.state) k) ∧
      (∀ j, j ≠ i → after.ops j = race.ops j) ∧ stored after.state = stored race.state := by
  obtain ⟨next, asks, decides⟩ := change_ask store.reached k
  obtain ⟨answer, record, answered, delivers, holds, kept⟩ := store.reads race.state
  obtain ⟨quota, goesOn⟩ := decides record answer delivers
  rw [holds, if_neg due] at goesOn
  obtain ⟨after, step, own, others, now⟩ := Race.step_at (reads.trans asks)
  rw [answered, goesOn] at own
  exact ⟨after, step, own, others, by rw [now, kept]⟩

theorem write_step (store : r.IsStore c server stored) {xs : List α}
    (writes : race.ops i = r.write c xs) :
    ∃ after, Race.Step server race after ∧ (∀ j, j ≠ i → after.ops j = race.ops j) ∧
      stored after.state = xs := by
  obtain ⟨next, asks, ends⟩ := write_ask store.reached xs
  obtain ⟨answer, record, answered, delivers, put⟩ := store.write_body race.state xs
  obtain ⟨after, step, _, others, now⟩ := Race.step_at (writes.trans asks)
  exact ⟨after, step, others, by rw [now, put]⟩

/-- Two changes that both read before either writes: the second write loses the first. -/
theorem last_writer_wins (store : r.IsStore c server stored) (ops : ι → Op Annotations)
    {i j : ι} (apart : i ≠ j) {k k' : Change} (first : ops i = r.change c k)
    (second : ops j = r.change c k') (s : σ) (due : ¬r.Stands (stored s) k)
    (due' : ¬r.Stands (stored s) k') :
    ∃ race, Race.Reaches server ⟨ops, s⟩ race ∧ stored race.state = r.edit (stored s) k' := by
  have begins : (⟨ops, s⟩ : Race ι Request Answer Failure Annotations σ).ops i =
    r.change c k := first
  obtain ⟨one, read, own, others, same⟩ := read_step store begins due
  have waits : one.ops j = r.change c k' := (others j apart.symm).trans second
  obtain ⟨two, read', own', others', same'⟩ := read_step store waits (by rwa [same])
  obtain ⟨three, write, others'', _⟩ := write_step store ((others' i apart).trans own)
  obtain ⟨four, write', _, now⟩ := write_step store ((others'' j apart.symm).trans own')
  refine ⟨four, .tail (.tail (.tail (.single read) read') write) write', ?_⟩
  rw [now, same]

end

end Roster

/-- Calls that race to change the members of one agent group, or the roles of one agent, can undo
    each other's changes and touch nothing else. -/
theorem racing_changes_touch_own_ids (c : Client) (server : σ → Request → Answer × σ) (n : Nat) :
    (∀ groupId stored, (groupRoster groupId).IsStore c server stored →
      ∀ calls : Fin n → MemberCall groupId, (groupRoster groupId).SurvivesRaces server stored
        (fun i => (calls i).op c) fun i => (calls i).change) ∧
    ∀ agent stored, (roleRoster agent).IsStore c server stored →
      ∀ calls : Fin n → RoleCall agent, (roleRoster agent).SurvivesRaces server stored
        (fun i => (calls i).op c) fun i => (calls i).change := by
  refine ⟨fun groupId stored store calls => ?_, fun agent stored store calls => ?_⟩
  · simp only [MemberCall.op_eq_change]
    exact Roster.survivesRaces store _
  · simp only [RoleCall.op_eq_change]
    exact Roster.survivesRaces store _

def reader (role : UInt64) : Entitlement :=
  roleEntitlement (Role.resource ⟨role, "Reader", none, none⟩)

def earns (role : UInt64) : RoleCall 31 where
  call := .grant (agentPrincipal 31) (reader role)
  role := role
  forAgent := rfl
  ofAgent := recordId_idText agentId 31
  numbered := recordId_idText roleId role

def loses (role : UInt64) : RoleCall 31 where
  call := .revoke (Grant.new (reader role) (agentPrincipal 31))
  role := role
  forAgent := rfl
  ofAgent := recordId_idText agentId 31
  numbered := recordId_idText roleId role

def agentServer : List AgentRole → Request → Answer × List AgentRole :=
  (roleRoster 31).listServer fun roles =>
    ⟨31, none, none, none, none, roles, none, none, none, none, none, none, none, none, none⟩

theorem agentServer_isStore : (roleRoster 31).IsStore acme agentServer fun xs => xs :=
  Roster.listServer_isStore Agent.codec_faithful Agent.codec_fits (by decide) (fun _ => rfl)
    (Client.reaches_of_isOk (by decide +kernel))

def rivals : Fin 2 → MemberCall 3
  | 0 => joins 7
  | 1 => leaves 2

def roleRivals : Fin 2 → RoleCall 31
  | 0 => earns 9
  | 1 => loses 8

def limited : AgentRole := ⟨5, some "assigned_items", some [3]⟩

theorem first_updates_lost :
    (∃ race, Race.Reaches networkServer ⟨fun i => (rivals i).op acme, [1, 2, 3]⟩ race ∧
      race.state = [1, 3] ∧ race.state.Nodup ∧
      (race.state.filter fun m => ∀ i, (rivals i).change.id ≠ m) =
        ([1, 2, 3].filter fun m => ∀ i, (rivals i).change.id ≠ m)) ∧
    ∃ race, Race.Reaches agentServer ⟨fun i => (roleRivals i).op acme, [.new 8, limited]⟩ race ∧
      race.state = [limited] ∧
      (race.state.filter fun a => ∀ i, (roleRivals i).change.id ≠ a.roleId) =
        ([.new 8, limited].filter fun a => ∀ i, (roleRivals i).change.id ≠ a.roleId) := by
  constructor
  · have first := (rivals 0).op_eq_change acme
    have second := (rivals 1).op_eq_change acme
    have due : ¬(groupRoster 3).Stands [1, 2, 3] (rivals 0).change := by decide
    have due' : ¬(groupRoster 3).Stands [1, 2, 3] (rivals 1).change := by decide
    obtain ⟨race, run, now⟩ := Roster.last_writer_wins networkServer_isStore
      (fun i => (rivals i).op acme) (by decide : (0 : Fin 2) ≠ 1) first second [1, 2, 3] due due'
    obtain ⟨others, once, _⟩ := (racing_changes_touch_own_ids acme networkServer 2).1 3 _
      networkServer_isStore rivals [1, 2, 3] race run
    refine ⟨race, run, now, ?_, others⟩
    rw [groupRoster_ids, groupRoster_ids] at once
    exact once (by decide)
  · have first := (roleRivals 0).op_eq_change acme
    have second := (roleRivals 1).op_eq_change acme
    have due : ¬(roleRoster 31).Stands [.new 8, limited] (roleRivals 0).change := by decide
    have due' : ¬(roleRoster 31).Stands [.new 8, limited] (roleRivals 1).change := by decide
    obtain ⟨race, run, now⟩ := Roster.last_writer_wins agentServer_isStore
      (fun i => (roleRivals i).op acme) (by decide : (0 : Fin 2) ≠ 1) first second
      [.new 8, limited] due due'
    obtain ⟨others, _⟩ := (racing_changes_touch_own_ids acme agentServer 2).2 31 _
      agentServer_isStore roleRivals [.new 8, limited] race run
    exact ⟨race, run, now, others⟩

end IdentitySync.Desk
