/-!
Operations that talk to a server: each step either ends the operation or sends one request and goes
on with its answer. A server is any function that answers from a state, so the same operation runs
against a script, a store or the history of its requests.
-/
namespace IdentitySync

/-- `crash` ends an operation without a result. -/
inductive Exchange (Q A ε α : Type) where
  | done (a : α)
  | fail (e : ε)
  | crash
  | ask (q : Q) (next : A → Exchange Q A ε α)

inductive Outcome (ε α : Type) where
  | done (a : α)
  | fail (e : ε)
  | crash
deriving DecidableEq, Repr

namespace Exchange

def follow (onFail : ε → Exchange Q A ε' β) (onDone : α → Exchange Q A ε' β) :
    Exchange Q A ε α → Exchange Q A ε' β
  | .done a => onDone a
  | .fail e => onFail e
  | .crash => .crash
  | .ask q next => .ask q fun a => (next a).follow onFail onDone

protected def bind (p : Exchange Q A ε α) (f : α → Exchange Q A ε β) : Exchange Q A ε β :=
  p.follow .fail f

instance : Monad (Exchange Q A ε) where
  pure := .done
  bind := Exchange.bind

def mapFailure (f : ε → ε') (p : Exchange Q A ε α) : Exchange Q A ε' α :=
  p.follow (fun e => .fail (f e)) .done

def attempt (p : Exchange Q A ε α) : Exchange Q A ε' (Except ε α) :=
  p.follow (fun e => .done (.error e)) fun a => .done (.ok a)

def ofExcept : Except ε α → Exchange Q A ε α
  | .ok a => .done a
  | .error e => .fail e

/-- Runs an operation against a server that answers from its state. -/
def run (server : σ → Q → A × σ) : Exchange Q A ε α → σ → Outcome ε α × σ
  | .done a, s => (.done a, s)
  | .fail e, s => (.fail e, s)
  | .crash, s => (.crash, s)
  | .ask q next, s => ((next (server s q).1).run server) (server s q).2

/-- A server that also keeps what it was asked and what it answered. -/
def recorded (server : σ → Q → A × σ) : σ × List (Q × A) → Q → A × (σ × List (Q × A)) :=
  fun s q => ((server s.1 q).1, ((server s.1 q).2, s.2 ++ [(q, (server s.1 q).1)]))

end Exchange

end IdentitySync
