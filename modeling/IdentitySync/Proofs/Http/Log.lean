import IdentitySync.Http.Exchange

/-!
What an operation asks and is answered until it ends. An operation made of two parts can end in the
ways of its first part continued by those of the second. What holds of all of these ways holds of
every run, whatever the server does.
-/
namespace IdentitySync

def Outcome.map (f : ε → ε') (g : α → β) : Outcome ε α → Outcome ε' β
  | .done a => .done (g a)
  | .fail e => .fail (f e)
  | .crash => .crash

def Outcome.done? : Outcome ε α → Option α
  | .done a => some a
  | .fail _ => none
  | .crash => none

theorem Outcome.eq_done {o : Outcome ε α} {a : α} (h : o.done? = some a) : o = .done a := by
  cases o with
  | done b =>
    cases h
    rfl
  | fail e => cases h
  | crash => cases h

namespace Exchange

variable {Q A ε ε' α β σ : Type}

def log (server : σ → Q → A × σ) : Exchange Q A ε α → σ → List (Q × A)
  | .done _, _ => []
  | .fail _, _ => []
  | .crash, _ => []
  | .ask q next, s => (q, (server s q).1) :: (next (server s q).1).log server (server s q).2

/-- The operation can end so after these questions with these answers. -/
inductive Ends : Exchange Q A ε α → List (Q × A) → Outcome ε α → Prop where
  | done (a : α) : Ends (.done a) [] (.done a)
  | fail (e : ε) : Ends (.fail e) [] (.fail e)
  | crash : Ends .crash [] .crash
  | ask {q : Q} {next : A → Exchange Q A ε α} (answer : A) {log : List (Q × A)} {o : Outcome ε α}
      (rest : Ends (next answer) log o) : Ends (.ask q next) ((q, answer) :: log) o

theorem ends_of_run (server : σ → Q → A × σ) (p : Exchange Q A ε α) (s : σ) :
    Ends p (p.log server s) (p.run server s).1 := by
  induction p generalizing s with
  | done a => exact .done a
  | fail e => exact .fail e
  | crash => exact .crash
  | ask q next ih => exact .ask _ (ih _ _)

theorem answer_of_log {server : σ → Q → A × σ} {p : Exchange Q A ε α} {s : σ} {x : Q × A}
    (h : x ∈ p.log server s) : ∃ s', x.2 = (server s' x.1).1 := by
  induction p generalizing s with
  | done a => cases h
  | fail e => cases h
  | crash => cases h
  | ask q next ih =>
    rcases List.mem_cons.mp h with rfl | h
    · exact ⟨s, rfl⟩
    · exact ih _ h

theorem run_keeps {γ : Type} {kept : σ → γ} {server : σ → Q → A × σ} (p : Exchange Q A ε α) (s : σ)
    (keeps : ∀ x ∈ p.log server s, ∀ s', kept (server s' x.1).2 = kept s') :
    kept (p.run server s).2 = kept s := by
  induction p generalizing s with
  | done a => rfl
  | fail e => rfl
  | crash => rfl
  | ask q next ih =>
    have rest := ih (server s q).1 (server s q).2
      fun x hx => keeps x (List.mem_cons_of_mem _ hx)
    exact rest.trans (keeps _ List.mem_cons_self s)

theorem run_recorded (server : σ → Q → A × σ) (p : Exchange Q A ε α) (s : σ)
    (before : List (Q × A)) :
    p.run (recorded server) (s, before) =
      ((p.run server s).1, ((p.run server s).2, before ++ p.log server s)) := by
  induction p generalizing s before with
  | done a => simp only [run, log, List.append_nil]
  | fail e => simp only [run, log, List.append_nil]
  | crash => simp only [run, log, List.append_nil]
  | ask q next ih =>
    simp only [run, recorded, log]
    rw [ih, List.append_assoc]
    rfl

theorem log_bind_done {p : Exchange Q A ε α} {server : σ → Q → A × σ} {s s' : σ} {a : α}
    (h : p.run server s = (.done a, s')) (f : α → Exchange Q A ε β) :
    (p >>= f).log server s = p.log server s ++ (f a).log server s' := by
  induction p generalizing s with
  | done b =>
    cases h
    rfl
  | fail e => cases h
  | crash => cases h
  | ask q next ih => exact congrArg (List.cons _) (ih _ h)

theorem run_follow_map (f : ε → ε') (g : α → β) (p : Exchange Q A ε α) (server : σ → Q → A × σ)
    (s : σ) : (p.follow (fun e => .fail (f e)) fun a => .done (g a)).run server s =
      ((p.run server s).1.map f g, (p.run server s).2) := by
  induction p generalizing s with
  | done a => rfl
  | fail e => rfl
  | crash => rfl
  | ask q next ih => exact ih _ _

theorem log_follow_map (f : ε → ε') (g : α → β) (p : Exchange Q A ε α) (server : σ → Q → A × σ)
    (s : σ) : (p.follow (fun e => .fail (f e)) fun a => .done (g a)).log server s =
      p.log server s := by
  induction p generalizing s with
  | done a => rfl
  | fail e => rfl
  | crash => rfl
  | ask q next ih => exact congrArg (List.cons _) (ih _ _)

theorem log_attempt (p : Exchange Q A ε α) (server : σ → Q → A × σ) (s : σ) :
    (p.attempt : Exchange Q A ε' (Except ε α)).log server s = p.log server s := by
  induction p generalizing s with
  | done a => rfl
  | fail e => rfl
  | crash => rfl
  | ask q next ih => exact congrArg (List.cons _) (ih _ _)

theorem Ends.of_fail {e : ε} {log : List (Q × A)} {o : Outcome ε α}
    (h : Ends (.fail e : Exchange Q A ε α) log o) : log = [] ∧ o = .fail e := by
  cases h
  exact ⟨rfl, rfl⟩

theorem Ends.of_follow {p : Exchange Q A ε α} {onFail : ε → Exchange Q A ε' β}
    {onDone : α → Exchange Q A ε' β} {log : List (Q × A)} {o : Outcome ε' β}
    (h : Ends (p.follow onFail onDone) log o) :
    (∃ before a after, log = before ++ after ∧ Ends p before (.done a) ∧
      Ends (onDone a) after o) ∨
    (∃ before e after, log = before ++ after ∧ Ends p before (.fail e) ∧
      Ends (onFail e) after o) ∨
    (Ends p log .crash ∧ o = .crash) := by
  induction p generalizing log with
  | done a => exact .inl ⟨[], a, log, rfl, .done a, h⟩
  | fail e => exact .inr (.inl ⟨[], e, log, rfl, .fail e, h⟩)
  | crash =>
    cases h
    exact .inr (.inr ⟨.crash, rfl⟩)
  | ask q next ih =>
    cases h with
    | ask answer rest =>
      rcases ih answer rest with ⟨before, a, after, rfl, first, second⟩ |
        ⟨before, e, after, rfl, first, second⟩ | ⟨first, rfl⟩
      · exact .inl ⟨_, a, after, rfl, .ask answer first, second⟩
      · exact .inr (.inl ⟨_, e, after, rfl, .ask answer first, second⟩)
      · exact .inr (.inr ⟨.ask answer first, rfl⟩)

theorem Ends.of_bind {p : Exchange Q A ε α} {f : α → Exchange Q A ε β} {log : List (Q × A)}
    {o : Outcome ε β} (h : Ends (p >>= f) log o) :
    (∃ before a after, log = before ++ after ∧ Ends p before (.done a) ∧ Ends (f a) after o) ∨
    (∃ e, Ends p log (.fail e) ∧ o = .fail e) ∨ (Ends p log .crash ∧ o = .crash) := by
  rcases Ends.of_follow h with goesOn | ⟨before, e, after, rfl, first, failed⟩ | crashed
  · exact .inl goesOn
  · cases failed
    rw [List.append_nil]
    exact .inr (.inl ⟨e, first, rfl⟩)
  · exact .inr (.inr crashed)

theorem Ends.of_bind_done {p : Exchange Q A ε α} {f : α → Exchange Q A ε β} {log : List (Q × A)}
    {b : β} (h : Ends (p >>= f) log (.done b)) :
    ∃ before a after, log = before ++ after ∧ Ends p before (.done a) ∧
      Ends (f a) after (.done b) := by
  rcases Ends.of_bind h with goesOn | ⟨_, _, failed⟩ | ⟨_, crashed⟩
  · exact goesOn
  · cases failed
  · cases crashed

theorem Ends.of_bind_ok {r : Except ε α} {f : α → Exchange Q A ε β} {log : List (Q × A)} {b : β}
    (h : Ends (ofExcept r >>= f) log (.done b)) : ∃ a, r = .ok a ∧ Ends (f a) log (.done b) := by
  cases r with
  | error e => cases h
  | ok a => exact ⟨a, rfl, h⟩

theorem Ends.of_mapFailure {p : Exchange Q A ε α} {f : ε → ε'} {log : List (Q × A)}
    {o : Outcome ε' α} (h : Ends (p.mapFailure f) log o) :
    (∃ a, Ends p log (.done a) ∧ o = .done a) ∨ (∃ e, Ends p log (.fail e) ∧ o = .fail (f e)) ∨
    (Ends p log .crash ∧ o = .crash) := by
  rcases Ends.of_follow h with ⟨before, a, after, rfl, first, second⟩ |
    ⟨before, e, after, rfl, first, second⟩ | crashed
  · cases second
    rw [List.append_nil]
    exact .inl ⟨a, first, rfl⟩
  · cases second
    rw [List.append_nil]
    exact .inr (.inl ⟨e, first, rfl⟩)
  · exact .inr (.inr crashed)

theorem Ends.of_mapFailure_done {p : Exchange Q A ε α} {f : ε → ε'} {log : List (Q × A)} {a : α}
    (h : Ends (p.mapFailure f) log (.done a)) : Ends p log (.done a) := by
  rcases Ends.of_mapFailure h with ⟨_, own, same⟩ | ⟨_, _, failed⟩ | ⟨_, crashed⟩
  · cases same
    exact own
  · cases failed
  · cases crashed

theorem Ends.of_follow_map {p : Exchange Q A ε α} {f : ε → ε'} {g : α → β} {log : List (Q × A)}
    {o : Outcome ε' β} (h : Ends (p.follow (fun e => .fail (f e)) fun a => .done (g a)) log o) :
    ∃ own, Ends p log own ∧ o = own.map f g := by
  rcases Ends.of_follow h with ⟨before, a, after, rfl, first, second⟩ |
    ⟨before, e, after, rfl, first, second⟩ | ⟨own, rfl⟩
  · cases second
    exact ⟨.done a, by rwa [List.append_nil], rfl⟩
  · cases second
    exact ⟨.fail e, by rwa [List.append_nil], rfl⟩
  · exact ⟨.crash, own, rfl⟩

inductive AsksOnly (P : Q → Prop) : Exchange Q A ε α → Prop where
  | done (a : α) : AsksOnly P (.done a)
  | fail (e : ε) : AsksOnly P (.fail e)
  | crash : AsksOnly P .crash
  | ask {q : Q} {next : A → Exchange Q A ε α} (own : P q)
      (rest : ∀ answer, AsksOnly P (next answer)) : AsksOnly P (.ask q next)

theorem AsksOnly.log_all {P : Q → Prop} {p : Exchange Q A ε α} (only : p.AsksOnly P)
    {log : List (Q × A)} {o : Outcome ε α} (h : Ends p log o) : ∀ x ∈ log, P x.1 := by
  induction only generalizing log with
  | done a =>
    cases h
    exact fun x none => absurd none List.not_mem_nil
  | fail e =>
    cases h
    exact fun x none => absurd none List.not_mem_nil
  | crash =>
    cases h
    exact fun x none => absurd none List.not_mem_nil
  | ask own rest ih =>
    cases h with
    | ask answer goesOn =>
      intro x hx
      rcases List.mem_cons.mp hx with rfl | hx
      · exact own
      · exact ih answer goesOn x hx

theorem AsksOnly.mono {P P' : Q → Prop} {p : Exchange Q A ε α} (only : p.AsksOnly P)
    (wider : ∀ q, P q → P' q) : p.AsksOnly P' := by
  induction only with
  | done a => exact .done a
  | fail e => exact .fail e
  | crash => exact .crash
  | ask own rest ih => exact .ask (wider _ own) ih

theorem AsksOnly.follow {P : Q → Prop} {p : Exchange Q A ε α} {onFail : ε → Exchange Q A ε' β}
    {onDone : α → Exchange Q A ε' β} (only : p.AsksOnly P) (fails : ∀ e, (onFail e).AsksOnly P)
    (goesOn : ∀ a, (onDone a).AsksOnly P) : (p.follow onFail onDone).AsksOnly P := by
  induction only with
  | done a => exact goesOn a
  | fail e => exact fails e
  | crash => exact .crash
  | ask own rest ih => exact .ask own ih

theorem AsksOnly.bind {P : Q → Prop} {p : Exchange Q A ε α} {f : α → Exchange Q A ε β}
    (only : p.AsksOnly P) (goesOn : ∀ a, (f a).AsksOnly P) : (p >>= f).AsksOnly P :=
  only.follow .fail goesOn

theorem AsksOnly.mapFailure {P : Q → Prop} {p : Exchange Q A ε α} (only : p.AsksOnly P)
    (f : ε → ε') : (p.mapFailure f).AsksOnly P := only.follow (fun _ => .fail _) .done

theorem asksOnly_ofExcept (P : Q → Prop) (r : Except ε α) :
    (ofExcept r : Exchange Q A ε α).AsksOnly P := by
  cases r with
  | error e => exact .fail e
  | ok a => exact .done a

/-- The operation ends without a result right after an answer that upsets it, and only then. -/
inductive CrashesOn (Upsets : A → Prop) : Exchange Q A ε α → Prop where
  | done (a : α) : CrashesOn Upsets (.done a)
  | fail (e : ε) : CrashesOn Upsets (.fail e)
  | ask {q : Q} {next : A → Exchange Q A ε α}
      (stops : ∀ answer, Upsets answer → next answer = .crash)
      (rest : ∀ answer, ¬Upsets answer → CrashesOn Upsets (next answer)) :
      CrashesOn Upsets (.ask q next)

theorem CrashesOn.follow {Upsets : A → Prop} {p : Exchange Q A ε α} {onFail : ε → Exchange Q A ε' β}
    {onDone : α → Exchange Q A ε' β} (own : p.CrashesOn Upsets)
    (fails : ∀ e, (onFail e).CrashesOn Upsets) (goesOn : ∀ a, (onDone a).CrashesOn Upsets) :
    (p.follow onFail onDone).CrashesOn Upsets := by
  induction own with
  | done a => exact goesOn a
  | fail e => exact fails e
  | ask stops rest ih =>
    refine .ask (fun answer upsets => ?_) ih
    rw [stops answer upsets]
    rfl

theorem CrashesOn.bind {Upsets : A → Prop} {p : Exchange Q A ε α} {f : α → Exchange Q A ε β}
    (own : p.CrashesOn Upsets) (goesOn : ∀ a, (f a).CrashesOn Upsets) :
    (p >>= f).CrashesOn Upsets := own.follow .fail goesOn

theorem CrashesOn.mapFailure {Upsets : A → Prop} {p : Exchange Q A ε α}
    (own : p.CrashesOn Upsets) (f : ε → ε') : (p.mapFailure f).CrashesOn Upsets :=
  own.follow (fun _ => .fail _) .done

theorem crashesOn_ofExcept (Upsets : A → Prop) (r : Except ε α) :
    (ofExcept r : Exchange Q A ε α).CrashesOn Upsets := by
  cases r with
  | error e => exact .fail e
  | ok a => exact .done a

theorem CrashesOn.run_iff {Upsets : A → Prop} {p : Exchange Q A ε α} (own : p.CrashesOn Upsets)
    (server : σ → Q → A × σ) (s : σ) :
    ((p.run server s).1 = .crash ↔ ∃ x ∈ p.log server s, Upsets x.2) ∧
    ∀ x ∈ (p.log server s).dropLast, ¬Upsets x.2 := by
  induction own generalizing s with
  | done a => exact ⟨⟨nofun, fun ⟨_, hx, _⟩ => absurd hx List.not_mem_nil⟩,
      fun _ hx => absurd hx List.not_mem_nil⟩
  | fail e => exact ⟨⟨nofun, fun ⟨_, hx, _⟩ => absurd hx List.not_mem_nil⟩,
      fun _ hx => absurd hx List.not_mem_nil⟩
  | @ask q next stops rest ih =>
    rw [run, log]
    by_cases upsets : Upsets (server s q).1
    · rw [stops _ upsets]
      exact ⟨⟨fun _ => ⟨_, List.mem_cons_self, upsets⟩, fun _ => rfl⟩,
        fun _ hx => absurd hx List.not_mem_nil⟩
    · obtain ⟨crashes, calm⟩ := ih _ upsets (server s q).2
      refine ⟨crashes.trans ⟨fun ⟨x, hx, bad⟩ => ⟨x, List.mem_cons_of_mem _ hx, bad⟩, ?_⟩, ?_⟩
      · rintro ⟨x, hx, bad⟩
        rcases List.mem_cons.mp hx with rfl | hx
        · exact absurd bad upsets
        · exact ⟨x, hx, bad⟩
      · intro x hx
        cases others : (next (server s q).1).log server (server s q).2 with
        | nil =>
          rw [others] at hx
          cases hx
        | cons y more =>
          rw [others] at hx calm
          rcases List.mem_cons.mp hx with rfl | hx
          · exact upsets
          · exact calm x hx

def FailsAt (x : Q × A) (e : ε) (p : Exchange Q A ε α) : Prop :=
  ∀ log o, Ends p log o → x ∈ log → o = .fail e

theorem FailsAt.bind {x : Q × A} {e : ε} {p : Exchange Q A ε α} {f : α → Exchange Q A ε β}
    (own : p.FailsAt x e) (rest : ∀ a, (f a).FailsAt x e) : (p >>= f).FailsAt x e := by
  intro log o ends hx
  rcases Ends.of_bind ends with ⟨before, a, after, rfl, first, second⟩ | ⟨g, first, rfl⟩ |
    ⟨first, rfl⟩
  · rcases List.mem_append.mp hx with hx | hx
    · cases own _ _ first hx
    · exact rest a _ _ second hx
  · cases own _ _ first hx
    rfl
  · cases own _ _ first hx

theorem FailsAt.mapFailure {x : Q × A} {e : ε} {p : Exchange Q A ε α} (own : p.FailsAt x e)
    (f : ε → ε') : (p.mapFailure f).FailsAt x (f e) := by
  intro log o ends hx
  rcases Ends.of_mapFailure ends with ⟨a, first, rfl⟩ | ⟨g, first, rfl⟩ | ⟨first, rfl⟩
  · cases own _ _ first hx
  · cases own _ _ first hx
    rfl
  · cases own _ _ first hx

end Exchange

end IdentitySync
