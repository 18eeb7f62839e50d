import Mathlib.Data.List.FinRange
import IdentitySync.Proofs.Http.Log
import IdentitySync.Proofs.Http.Run
import IdentitySync.Ticket.Outcome

/-!
Several ticket calls one after the other, for any way in which the single call is carried out. They
are the single calls, each from the state in which those before it left the world. Whatever some of
them fail with, all are made, and each has its outcome at its own place; so no ticket that a call
gave or left behind is missing there.
-/
namespace IdentitySync

abbrev CallResult := Except Failure (Ticket × Annotations)

/-- A call as a step of the world: what it gives for an item, and the state that it leaves. -/
abbrev WorldStep (α σ : Type) := α → σ → CallResult × σ

def Outcome.ofExcept : Except ε α → Outcome ε α
  | .ok a => .done a
  | .error e => .fail e

namespace WorldStep

variable {α σ : Type} (step : WorldStep α σ)

def after (s : σ) (items : List α) : σ := items.foldl (fun s x => (step x s).2) s

/-- What the calls for the items give, each from the state that those before it left. -/
def inTurn : σ → List α → List CallResult
  | _, [] => []
  | s, x :: rest => (step x s).1 :: inTurn (step x s).2 rest

theorem length_inTurn (s : σ) (items : List α) : (step.inTurn s items).length = items.length := by
  induction items generalizing s with
  | nil => rfl
  | cons x rest ih => rw [inTurn, List.length_cons, List.length_cons, ih]

theorem getElem?_inTurn (s : σ) (items : List α) (i : Nat) :
    (step.inTurn s items)[i]? =
      items[i]?.map fun x => (step x (step.after s (items.take i))).1 := by
  induction items generalizing s i with
  | nil => rfl
  | cons x rest ih =>
    cases i with
    | zero => rfl
    | succ i => exact ih (step x s).2 i

end WorldStep

namespace TicketOutcome

variable {α σ Q A ε : Type} {server : σ → Q → A × σ}
  {single : α → Exchange Q A Failure (Ticket × Annotations)} {step : WorldStep α σ}

/-- Against the server the operation does for every item what the step does: it ends with a result
    or with any failure, in any state. -/
def Carries (server : σ → Q → A × σ) (single : α → Exchange Q A Failure (Ticket × Annotations))
    (step : WorldStep α σ) : Prop :=
  ∀ x s, (single x).run server s = (.ofExcept (step x s).1, (step x s).2)

theorem carries_asking (step : WorldStep α σ) :
    Carries (fun s x => step x s) (fun x => .ask x .ofExcept) step := by
  intro x s
  simp only [Exchange.run]
  cases (step x s).1 with
  | ok a => rfl
  | error f => rfl

theorem run_attempt (carries : Carries server single step) (x : α) (s : σ) :
    ((single x).attempt : Exchange Q A ε CallResult).run server s =
      (.done (step x s).1, (step x s).2) := by
  rw [Exchange.attempt, Exchange.run_follow, carries]
  cases (step x s).1 with
  | ok a => rfl
  | error f => rfl

theorem bulk_cons (x : α) (rest : List α) :
    (bulk single (x :: rest) : Exchange Q A ε (List TicketOutcome)) =
      (single x).attempt >>= fun result => bulk single rest >>= fun others =>
        .done (ofResult result :: others) := rfl

theorem bulk_run (carries : Carries server single step) (items : List α) (s : σ) :
    (bulk single items : Exchange Q A ε (List TicketOutcome)).run server s =
      (.done ((step.inTurn s items).map ofResult), step.after s items) := by
  induction items generalizing s with
  | nil => rfl
  | cons x rest ih =>
    rw [bulk_cons, Exchange.run_bind_done (run_attempt carries x s),
      Exchange.run_bind_done (ih (step x s).2)]
    rfl

theorem bulk_log (carries : Carries server single step) (items : List α) (s : σ) :
    (bulk single items : Exchange Q A ε (List TicketOutcome)).log server s =
      (List.finRange items.length).flatMap fun i : Fin items.length =>
        (single items[i]).log server (step.after s (items.take i)) := by
  induction items generalizing s with
  | nil => rfl
  | cons x rest ih =>
    have places : List.finRange (x :: rest).length =
        0 :: (List.finRange rest.length).map Fin.succ := List.finRange_succ
    rw [bulk_cons, Exchange.log_bind_done (run_attempt carries x s), Exchange.log_attempt,
      Exchange.log_bind_done (bulk_run carries rest (step x s).2), ih, places, List.flatMap_cons,
      List.flatMap_map]
    exact congrArg _ (List.append_nil _)

/-- What an outcome tells of a call: the ticket with its annotations and no error, or the text of
    the failure, with a ticket only when the failure is that this one was left incomplete. -/
inductive Tells : CallResult → TicketOutcome → Prop where
  | given (t : Ticket) (notes : Annotations) : Tells (.ok (t, notes)) ⟨some t, notes, none⟩
  | incomplete (t : Ticket) (message : String) :
      Tells (.error (.ticketIncomplete t message))
        ⟨some t, [], some (Failure.ticketIncomplete t message).message⟩
  | failed {f : Failure} (unmade : ∀ t message, f ≠ .ticketIncomplete t message) :
      Tells (.error f) ⟨none, [], some f.message⟩

inductive Leaves (t : Ticket) : CallResult → Prop where
  | given (notes : Annotations) : Leaves t (.ok (t, notes))
  | incomplete (message : String) : Leaves t (.error (.ticketIncomplete t message))

theorem tells_ofResult (result : CallResult) : Tells result (ofResult result) := by
  cases result with
  | ok a => exact .given a.1 a.2
  | error f =>
    cases f with
    | ticketIncomplete t message => exact .incomplete t message
    | _ =>
      refine .failed fun t message same => ?_
      cases same

theorem Tells.ticket_iff {result : CallResult} {o : TicketOutcome} (tells : Tells result o)
    (t : Ticket) : o.ticket = some t ↔ Leaves t result := by
  cases tells with
  | given t' notes =>
    constructor
    · intro same
      cases same
      exact .given notes
    · intro leaves
      cases leaves
      rfl
  | incomplete t' message =>
    constructor
    · intro same
      cases same
      exact .incomplete message
    · intro leaves
      cases leaves
      rfl
  | failed unmade =>
    constructor
    · intro same
      cases same
    · intro leaves
      cases leaves with
      | incomplete message => exact absurd rfl (unmade t message)

/-- Calls in a row always end with outcomes, one for each item. They ask what the single calls ask,
    each from the state that those before it left, and all calls are made, whatever fails. The
    outcome at an item's place tells what its own call gave, and has a ticket exactly when this call
    gave it or left it behind. -/
theorem bulk_makes_every_call_in_turn (carries : Carries server single step)
    (items : List α) (s : σ) :
    let calls : Exchange Q A ε (List TicketOutcome) := bulk single items
    ∃ outcomes, calls.run server s = (.done outcomes, step.after s items) ∧
      calls.log server s = ((List.finRange items.length).flatMap fun i : Fin items.length =>
        (single items[i]).log server (step.after s (items.take i))) ∧
      outcomes.length = items.length ∧
      ∀ i x, items[i]? = some x → ∃ o, outcomes[i]? = some o ∧
        Tells (step x (step.after s (items.take i))).1 o ∧
        ∀ t, o.ticket = some t ↔ Leaves t (step x (step.after s (items.take i))).1 := by
  intro calls
  refine ⟨_, bulk_run carries items s, bulk_log carries items s, ?_, fun i x own => ?_⟩
  · rw [List.length_map, step.length_inTurn]
  · have told := tells_ofResult (step x (step.after s (items.take i))).1
    refine ⟨_, ?_, told, told.ticket_iff⟩
    rw [List.getElem?_map, step.getElem?_inTurn, own]
    rfl

def ticketNumbered (n : Nat) (name : String) : Ticket :=
  ⟨Text.numeral n, name, "", none, [], none, none, none, .empty, none, none⟩

def numberingDesk : WorldStep String Nat := fun name next =>
  if name = "bad" then (.error (.invalidData "bad ticket"), next)
  else if name = "half" then
    (.error (.ticketIncomplete (ticketNumbered next name) "no answer"), next + 1)
  else (.ok (ticketNumbered next name, []), next + 1)

theorem unfinished_ticket_keeps_its_place :
    ∃ outcomes, (bulk (fun name => .ask name .ofExcept) ["half", "bad", "good"] :
        Exchange String CallResult Empty (List TicketOutcome)).run
          (fun next name => numberingDesk name next) 1 = (.done outcomes, 3) ∧
      outcomes.length = 3 ∧
      outcomes[0]?.bind ticket = some (ticketNumbered 1 "half") ∧
      outcomes[1]?.bind error = some "invalid data: bad ticket" ∧
      outcomes[2]?.bind ticket = some (ticketNumbered 2 "good") := by
  obtain ⟨outcomes, run, _, count, places⟩ :=
    bulk_makes_every_call_in_turn (carries_asking numberingDesk) ["half", "bad", "good"] 1
  obtain ⟨half, atHalf, _, halfMade⟩ := places 0 "half" rfl
  obtain ⟨bad, atBad, badTold, _⟩ := places 1 "bad" rfl
  obtain ⟨good, atGood, _, goodMade⟩ := places 2 "good" rfl
  refine ⟨outcomes, run, count, ?_, ?_, ?_⟩
  · rw [atHalf]
    exact (halfMade _).mpr (.incomplete "no answer")
  · rw [atBad]
    cases badTold with
    | failed _ => rfl
  · rw [atGood]
    exact (goodMade _).mpr (.given [])

end TicketOutcome

end IdentitySync
