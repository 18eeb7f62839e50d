import Mathlib.Logic.Function.Basic
import Mathlib.Logic.Relation
import IdentitySync.Http.Exchange

/-!
Operations in progress at the same time against one server. In a step one of them gets the answer
to the request that it waits on; the order is left open. What each operation keeps of the server's
state, while it keeps to its own stages, holds in every state that they reach together.
-/
namespace IdentitySync

structure Race (ι Q A ε α σ : Type) where
  ops : ι → Exchange Q A ε α
  state : σ

namespace Race

variable {ι Q A ε α σ : Type} [DecidableEq ι]

def advance (race : Race ι Q A ε α σ) (i : ι) (op : Exchange Q A ε α) (s : σ) :
    Race ι Q A ε α σ := ⟨Function.update race.ops i op, s⟩

@[simp] theorem advance_own (race : Race ι Q A ε α σ) (i : ι) (op : Exchange Q A ε α) (s : σ) :
    (race.advance i op s).ops i = op := by
  simp only [advance, Function.update_self]

theorem advance_other (race : Race ι Q A ε α σ) {i j : ι} (other : j ≠ i)
    (op : Exchange Q A ε α) (s : σ) : (race.advance i op s).ops j = race.ops j := by
  simp only [advance, ne_eq, other, not_false_eq_true, Function.update_of_ne]

inductive Step (server : σ → Q → A × σ) : Race ι Q A ε α σ → Race ι Q A ε α σ → Prop where
  | answer {race : Race ι Q A ε α σ} (i : ι) {q : Q} {next : A → Exchange Q A ε α}
      (asks : race.ops i = .ask q next) :
      Step server race
        (race.advance i (next (server race.state q).1) (server race.state q).2)

abbrev Reaches (server : σ → Q → A × σ) : Race ι Q A ε α σ → Race ι Q A ε α σ → Prop :=
  Relation.ReflTransGen (Step server)

variable {server : σ → Q → A × σ} {Holds : σ → Prop} {Stage : ι → Exchange Q A ε α → Prop}

/-- An operation that waits on a request can get its answer; all others stay where they are. -/
theorem step_at {race : Race ι Q A ε α σ} {i : ι} {q : Q} {next : A → Exchange Q A ε α}
    (asks : race.ops i = .ask q next) :
    ∃ after, Step server race after ∧ after.ops i = next (server race.state q).1 ∧
      (∀ j, j ≠ i → after.ops j = race.ops j) ∧ after.state = (server race.state q).2 :=
  ⟨_, .answer i asks, advance_own .., fun _ other => advance_other race other _ _, rfl⟩

theorem step_invariant
    (keeps : ∀ i s q next, Holds s → Stage i (.ask q next) →
      Holds (server s q).2 ∧ Stage i (next (server s q).1))
    {before after : Race ι Q A ε α σ} (step : Step server before after)
    (inv : Holds before.state ∧ ∀ i, Stage i (before.ops i)) :
    Holds after.state ∧ ∀ i, Stage i (after.ops i) := by
  obtain ⟨holds, stages⟩ := inv
  cases step with
  | answer i asks =>
    have own := stages i
    rw [asks] at own
    obtain ⟨holds', own'⟩ := keeps i _ _ _ holds own
    refine ⟨holds', fun j => ?_⟩
    by_cases same : j = i
    · subst same
      rw [advance_own]
      exact own'
    · rw [advance_other _ same]
      exact stages j

theorem reaches_invariant
    (keeps : ∀ i s q next, Holds s → Stage i (.ask q next) →
      Holds (server s q).2 ∧ Stage i (next (server s q).1))
    {start race : Race ι Q A ε α σ} (run : Reaches server start race)
    (inv : Holds start.state ∧ ∀ i, Stage i (start.ops i)) :
    Holds race.state ∧ ∀ i, Stage i (race.ops i) := by
  induction run with
  | refl => exact inv
  | tail _ step ih => exact step_invariant keeps step ih

end Race

end IdentitySync
