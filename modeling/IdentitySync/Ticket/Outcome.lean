import IdentitySync.Failure
import IdentitySync.Http.Exchange

/-!
Several ticket calls one after the other. Each has an outcome of its own; a failing one does not
stop the others.
-/
namespace IdentitySync

structure TicketOutcome where
  ticket : Option Ticket
  annotations : Annotations
  error : Option String

namespace TicketOutcome

def success (ticket : Ticket) (annotations : Annotations) : TicketOutcome :=
  ⟨some ticket, annotations, none⟩

/-- The ticket of a failure that left one behind. -/
def ticketOf : Failure → Option Ticket
  | .ticketIncomplete ticket _ => some ticket
  | _ => none

def failed (f : Failure) : TicketOutcome := ⟨ticketOf f, [], some f.message⟩

def ofResult : Except Failure (Ticket × Annotations) → TicketOutcome
  | .ok (ticket, annotations) => success ticket annotations
  | .error f => failed f

def bulk (single : α → Exchange Q A Failure (Ticket × Annotations)) :
    List α → Exchange Q A ε (List TicketOutcome)
  | [] => .done []
  | x :: rest => do
    let result ← (single x).attempt
    let others ← bulk single rest
    .done (ofResult result :: others)

end TicketOutcome

end IdentitySync
