import IdentitySync.Http.Exchange

/-!
Running an operation against a server part by part: what follows a part runs from the state in
which the part left the server, with the part's result.
-/
namespace IdentitySync.Exchange

variable {Q A ε ε' α β σ : Type} {server : σ → Q → A × σ} {s s' : σ}

theorem run_follow (onFail : ε → Exchange Q A ε' β) (onDone : α → Exchange Q A ε' β)
    (p : Exchange Q A ε α) (s : σ) :
    (p.follow onFail onDone).run server s =
      match p.run server s with
      | (.done a, s') => (onDone a).run server s'
      | (.fail e, s') => (onFail e).run server s'
      | (.crash, s') => (.crash, s') := by
  induction p generalizing s with
  | done a => rfl
  | fail e => rfl
  | crash => rfl
  | ask q next ih => exact ih _ _

theorem run_follow_done {p : Exchange Q A ε α} {a : α} (h : p.run server s = (.done a, s'))
    (onFail : ε → Exchange Q A ε' β) (onDone : α → Exchange Q A ε' β) :
    (p.follow onFail onDone).run server s = (onDone a).run server s' := by
  rw [run_follow, h]

theorem run_follow_fail {p : Exchange Q A ε α} {e : ε} (h : p.run server s = (.fail e, s'))
    (onFail : ε → Exchange Q A ε' β) (onDone : α → Exchange Q A ε' β) :
    (p.follow onFail onDone).run server s = (onFail e).run server s' := by
  rw [run_follow, h]

theorem run_follow_crash {p : Exchange Q A ε α} (h : p.run server s = (.crash, s'))
    (onFail : ε → Exchange Q A ε' β) (onDone : α → Exchange Q A ε' β) :
    (p.follow onFail onDone).run server s = (.crash, s') := by
  rw [run_follow, h]

theorem run_bind_done {p : Exchange Q A ε α} {a : α} (h : p.run server s = (.done a, s'))
    (f : α → Exchange Q A ε β) : (p >>= f).run server s = (f a).run server s' :=
  run_follow_done h .fail f

theorem run_bind_fail {p : Exchange Q A ε α} {e : ε} (h : p.run server s = (.fail e, s'))
    (f : α → Exchange Q A ε β) : (p >>= f).run server s = (.fail e, s') :=
  run_follow_fail h .fail f

theorem run_mapFailure_done {p : Exchange Q A ε α} {a : α} (h : p.run server s = (.done a, s'))
    (f : ε → ε') : (p.mapFailure f).run server s = (.done a, s') :=
  run_follow_done h _ .done

theorem follow_follow {γ ε'' : Type} (p : Exchange Q A ε α) (onFail : ε → Exchange Q A ε' β)
    (onDone : α → Exchange Q A ε' β) (onFail' : ε' → Exchange Q A ε'' γ)
    (onDone' : β → Exchange Q A ε'' γ) :
    (p.follow onFail onDone).follow onFail' onDone' =
      p.follow (fun e => (onFail e).follow onFail' onDone')
        fun a => (onDone a).follow onFail' onDone' := by
  induction p with
  | done a => rfl
  | fail e => rfl
  | crash => rfl
  | ask q next ih => exact congrArg (Exchange.ask q) (funext fun answer => ih answer)

theorem bind_bind {γ : Type} (p : Exchange Q A ε α) (f : α → Exchange Q A ε β)
    (g : β → Exchange Q A ε γ) : (p >>= f >>= g) = p >>= fun a => f a >>= g :=
  follow_follow p .fail f .fail g

theorem done_bind (a : α) (f : α → Exchange Q A ε β) : (.done a >>= f) = f a := rfl

theorem bind_ok (a : α) (f : α → Exchange Q A ε β) : (ofExcept (.ok a) >>= f) = f a := rfl

end IdentitySync.Exchange
