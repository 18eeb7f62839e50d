import IdentitySync.Proofs.Desk.RoleScan

/-!
Tokens as the only memory of a synchronization. A stack can be written to its token and read back
between any two of its changes without a difference, whatever texts stand in it, and what a text is
read as can be written and read again. Cursors of role scans have one token each. The empty token
belongs to the empty stack and to the finished scan alone.
-/
namespace IdentitySync

namespace PageStack

inductive Edit where
  | push (s : PageState)
  | pop
  | advance (token : String)

def edited (b : PageStack) : Edit → PageStack
  | .push s => b.push s
  | .pop => b.pop
  | .advance token => b.advance token

/-- Between its changes a stack may go through its token. -/
inductive Step where
  | edit (e : Edit)
  | reload

def Step.edit? : Step → Option Edit
  | .edit e => some e
  | .reload => none

def taken (b : PageStack) : Step → Except Failure PageStack
  | .edit e => .ok (b.edited e)
  | .reload => ofToken b.token

theorem reloads_change_nothing (steps : List Step) (b : PageStack) :
    steps.foldlM taken b = .ok ((steps.filterMap Step.edit?).foldl edited b) := by
  induction steps generalizing b with
  | nil => rfl
  | cons step steps ih =>
    cases step with
    | edit e => exact ih (b.edited e)
    | reload =>
      rw [List.foldlM_cons, taken, ofToken_token]
      exact ih b

theorem token_empty_iff (b : PageStack) : b.token = "" ↔ b.states = [] := by
  obtain ⟨states⟩ := b
  cases states with
  | nil => exact ⟨fun _ => rfl, fun _ => rfl⟩
  | cons s states =>
    exact ⟨fun empty => absurd empty (token_ne_empty s states), fun none => by cases none⟩

theorem ofToken_error {text : String} {f : Failure} (refused : ofToken text = .error f) :
    ∃ message, f = .invalidPageToken message := by
  rw [ofToken] at refused
  split at refused
  · cases refused
  · split at refused
    · cases refused
    · cases refused
      exact ⟨_, rfl⟩

theorem resume_error {text : String} {f : Failure} (refused : ofToken text = .error f)
    (resourceType : String) : resume text resourceType = .error f := by
  rw [resume, refused]
  rfl

theorem resume_ok {text : String} {b : PageStack} (read : ofToken text = .ok b)
    (resourceType : String) : ∃ b', resume text resourceType = .ok b' ∧ b'.states ≠ [] := by
  rw [resume, read]
  obtain ⟨states⟩ := b
  cases states with
  | nil => exact ⟨_, rfl, List.cons_ne_nil _ _⟩
  | cons s states => exact ⟨_, rfl, List.cons_ne_nil s states⟩

end PageStack

namespace Desk

/-- The empty token is read as the start of a scan, so a finished scan is told apart from the others
    by its token and not by what the token is read as. -/
theorem RoleCursor.token_injective {c c' : RoleCursor} (same : c.token = c'.token) : c = c' := by
  have together : c = .done ↔ c' = .done := by
    rw [← token_empty_iff, same, token_empty_iff]
  by_cases finished : c = .done
  · rw [finished, together.mp finished]
  · have read := ofToken_token finished
    rw [same, ofToken_token fun done => finished (together.mpr done)] at read
    exact (Except.ok.inj read).symm

/-- Tokens give back what was written into them, between all changes of a stack and for every page
    of a scan; a text is refused as a token or read as something that has this property. -/
theorem tokens_give_back_their_place :
    (∀ b : PageStack, PageStack.ofToken b.token = .ok b ∧ (b.token = "" ↔ b.states = [])) ∧
    (∀ (steps : List PageStack.Step) (b : PageStack), steps.foldlM PageStack.taken b =
      .ok ((steps.filterMap PageStack.Step.edit?).foldl PageStack.edited b)) ∧
    (∀ text : String,
      (∃ message, PageStack.ofToken text = .error (.invalidPageToken message) ∧
        ∀ resourceType,
          PageStack.resume text resourceType = .error (.invalidPageToken message)) ∨
      ∃ b, PageStack.ofToken text = .ok b ∧ PageStack.ofToken b.token = .ok b ∧
        ∀ resourceType, ∃ b', PageStack.resume text resourceType = .ok b' ∧ b'.states ≠ []) ∧
    (∀ page : UInt32,
      RoleCursor.ofToken (RoleCursor.users page).token = .ok (.users page) ∧
      RoleCursor.ofToken (RoleCursor.groups page).token = .ok (.groups page)) ∧
    (∀ c : RoleCursor, c.token = "" ↔ c = .done) ∧
    ∀ c c' : RoleCursor, c.token = c'.token ↔ c = c' := by
  refine ⟨fun b => ⟨b.ofToken_token, b.token_empty_iff⟩, PageStack.reloads_change_nothing, ?_, ?_,
    RoleCursor.token_empty_iff, fun c c' => ⟨RoleCursor.token_injective, congrArg _⟩⟩
  · intro text
    cases read : PageStack.ofToken text with
    | error f =>
      obtain ⟨message, rfl⟩ := PageStack.ofToken_error read
      exact .inl ⟨message, rfl, PageStack.resume_error read⟩
    | ok b => exact .inr ⟨b, rfl, b.ofToken_token, PageStack.resume_ok read⟩
  · intro page
    exact ⟨RoleCursor.ofToken_token (c := .users page) nofun,
      RoleCursor.ofToken_token (c := .groups page) nofun⟩

end Desk

end IdentitySync
