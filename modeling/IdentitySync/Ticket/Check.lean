import IdentitySync.Ticket.Basic

/-!
Checking a ticket against its schema: required fields are there and not empty, every value is of
its field's kind, and picks come from the allowed texts. Values of undeclared fields do not matter.
-/
namespace IdentitySync

inductive TicketFault where
  | missing (id : String)
  | empty (id : String)
  | notAllowed (value id : String)
  | wrongKind (kind : FieldKind) (id : String)
deriving DecidableEq, Repr

def TicketFault.message : TicketFault → String
  | .missing id => "missing required field '" ++ id ++ "'"
  | .empty id => "required field '" ++ id ++ "' is empty"
  | .notAllowed value id => "value '" ++ value ++ "' is not allowed for field '" ++ id ++ "'"
  | .wrongKind kind id => "field '" ++ id ++ "' expects a value of type " ++ kind.shown

namespace TicketField

def fault? (f : TicketField) (id : String) (v : FieldValue) : Option TicketFault :=
  match f.kind, v with
  | .text, .text s => if f.required ∧ s = "" then some (.empty id) else none
  | .texts, .texts xs => if f.required ∧ xs = [] then some (.empty id) else none
  | .flag, .flag _ => none
  | .moment, .moment _ => none
  | .pick allowed, .pick s =>
    if s = "" then (if f.required then some (.empty id) else none)
    else if s ∈ allowed then none else some (.notAllowed s id)
  | .picks allowed, .picks xs =>
    if f.required ∧ xs = [] then some (.empty id)
    else (xs.find? fun x => x ∉ allowed).map fun x => .notAllowed x id
  | kind, _ => some (.wrongKind kind id)

def entryFault? (f : TicketField) (id : String) : Option FieldValue → Option TicketFault
  | some v => f.fault? id v
  | none => if f.required then some (.missing id) else none

end TicketField

namespace TicketSchema

def fault? (s : TicketSchema) (t : Ticket) : Option TicketFault :=
  s.customFields.entries.findSome? fun p => p.2.entryFault? p.1 (t.customFields.get? p.1)

end TicketSchema

end IdentitySync
