import IdentitySync.Desk.RequesterMembership
import IdentitySync.Desk.RoleAssignment
import IdentitySync.Proofs.Desk.Sent
import IdentitySync.Proofs.Http.Log

/-!
Single calls, seen from outside: what a call asked the server for, how it ended, and the state in
which it left the server. A call on a resource first reads the number of the record behind it.
-/
namespace IdentitySync.Desk
open Http

structure Visit (β : Type) where
  asked : List Request
  outcome : Outcome Failure β

variable {β σ : Type}

def visit (server : σ → Request → Answer × σ) (call : Op β) (s : σ) : Visit β × σ :=
  let r := call.run (Exchange.recorded server) (s, [])
  (⟨r.2.2.map Prod.fst, r.1⟩, r.2.1)

theorem visit_eq (server : σ → Request → Answer × σ) (call : Op β) (s : σ) :
    visit server call s =
      (⟨(call.log server s).map Prod.fst, (call.run server s).1⟩, (call.run server s).2) := by
  simp only [visit, Exchange.run_recorded, List.nil_append]

def session (server : σ → Request → Answer × σ) (calls : List (Op β)) (s : σ) : σ :=
  calls.foldl (fun s call => (visit server call s).2) s

theorem visit_of_run {server : σ → Request → Answer × σ} {call : Op β} {s : σ} {b : β}
    {q : Request}
    (run : call.run (Exchange.recorded server) (s, []) =
      (.done b, (Exchange.recorded server (s, []) q).2)) :
    visit server call s = (⟨[q], .done b⟩, (server s q).2) := by
  simp only [visit, run]
  rfl

theorem visit_keeps {γ : Type} (kept : σ → γ) {server : σ → Request → Answer × σ} {call : Op β}
    {s : σ} (keeps : ∀ q ∈ (visit server call s).1.asked, ∀ s', kept (server s' q).2 = kept s') :
    kept (visit server call s).2 = kept s := by
  simp only [visit_eq] at keeps ⊢
  exact Exchange.run_keeps call s fun x hx => keeps x.1 (List.mem_map_of_mem hx)

theorem visit_ask {server : σ → Request → Answer × σ} {call : Op β} {s : σ} {b : β} {q : Request}
    {next : Answer → Op β} {answer : Answer} (asks : call = .ask q next)
    (answered : (server s q).1 = answer) (ends : next answer = .done b) :
    visit server call s = (⟨[q], .done b⟩, (server s q).2) := by
  refine visit_of_run ?_
  simp only [asks, Exchange.run, Exchange.recorded, answered, ends]

theorem recordId_idText (resourceType : String) (id : UInt64) :
    recordId ⟨resourceType, idText id⟩ = .ok id := by
  simp only [recordId, idText, Text.readWord64?_numeral]

theorem idText_injective {x y : UInt64} (same : idText x = idText y) : x = y := by
  have read := congrArg Text.readWord64? same
  rw [idText, idText, Text.readWord64?_numeral, Text.readWord64?_numeral] at read
  cases read
  rfl

theorem decimal_injective {x y : UInt64} (same : toString x = toString y) : x = y :=
  idText_injective (by rw [idText_eq, idText_eq, same])

theorem agentPrincipal_eq (id : UInt64) : agentPrincipal id = ⟨"agent", toString id⟩ := by
  rw [agentPrincipal, idText_eq]
  rfl

theorem agentGroupPrincipal_eq (id : UInt64) :
    agentGroupPrincipal id = ⟨"agent_group", toString id⟩ := by
  rw [agentGroupPrincipal, idText_eq]
  rfl

theorem requesterPrincipal_eq (id : UInt64) :
    requesterPrincipal id = ⟨"requester", toString id⟩ := by
  rw [requesterPrincipal, idText_eq]
  rfl

theorem recordId_ok_iff {id : ResourceId} {n : UInt64} :
    recordId id = .ok n ↔ Text.readWord64? id.resource = some n := by
  rw [recordId]
  cases Text.readWord64? id.resource with
  | none => exact ⟨nofun, nofun⟩
  | some m => rw [Except.ok.injEq, Option.some.injEq]

theorem recordId_error {id : ResourceId} {fault : Fault} (unnumbered : recordId id = .error fault) :
    ∃ text, fault = .badId text := by
  rw [recordId] at unnumbered
  split at unnumbered
  · cases unnumbered
  · cases unnumbered
    exact ⟨_, rfl⟩

theorem recordIdOp_ok {id : ResourceId} {n : UInt64} (numbered : recordId id = .ok n) :
    recordIdOp id = .done n := by
  rw [recordIdOp, numbered]
  rfl

end IdentitySync.Desk
