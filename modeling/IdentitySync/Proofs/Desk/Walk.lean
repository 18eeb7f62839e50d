import Mathlib.Data.List.Forall2
import IdentitySync.Proofs.Desk.Visit

/-!
Walks through a listing: the first call has the empty token, every other one the token of the page
before it, and each asks for a size of its own. A walk ends with a page that has no token. The
numbers of the pages it should see are an orbit: from the first page on, every page is the one that
was named next.
-/
namespace IdentitySync.Desk
open Http

variable {α β σ : Type}

/-- The call's results; a call that failed has none. -/
def Visit.items (v : Visit (SyncPage β)) : List β :=
  match v.outcome with
  | .done page => page.items
  | _ => []

/-- Calls with the given sizes, one after the other, until a page has no token for the next. -/
def walk (server : σ → Request → Answer × σ) (call : PageToken → Op (SyncPage β)) :
    List UInt32 → String → σ → List (Visit (SyncPage β))
  | [], _, _ => []
  | size :: sizes, token, s =>
    let v := visit server (call ⟨token, size⟩) s
    v.1 :: match v.1.outcome with
      | .done page => if page.nextToken = "" then [] else walk server call sizes page.nextToken v.2
      | _ => []

/-- At most so many pages, each the one named next by the page before; page zero is the first. -/
def orbit (next : UInt32 → Option UInt32) : Nat → UInt32 → List UInt32
  | 0, _ => []
  | n + 1, page => page :: match next page with
    | some following => orbit next n (max following 1)
    | none => []

/-- The pages from one page to the first that names no next page. -/
inductive PageChain (next : UInt32 → Option UInt32) : UInt32 → List UInt32 → Prop where
  | last {page : UInt32} (h : next page = none) : PageChain next page [page]
  | more {page following : UInt32} {rest : List UInt32} (h : next page = some following)
      (tail : PageChain next (max following 1) rest) : PageChain next page (page :: rest)

theorem PageChain.first_mem {next : UInt32 → Option UInt32} {page : UInt32} {pages : List UInt32}
    (chain : PageChain next page pages) : page ∈ pages := by
  cases chain with
  | last _ => exact List.mem_cons_self
  | more _ _ => exact List.mem_cons_self

theorem PageChain.next_mem {next : UInt32 → Option UInt32} {page : UInt32} {pages : List UInt32}
    (chain : PageChain next page pages) : ∀ p ∈ pages, ∀ n, next p = some n → max n 1 ∈ pages := by
  induction chain with
  | last h =>
    intro p hp n follows
    rw [List.mem_singleton] at hp
    rw [hp, h] at follows
    cases follows
  | @more page following rest h tail ih =>
    intro p hp n follows
    rcases List.mem_cons.mp hp with rfl | hp
    · rw [h] at follows
      cases follows
      exact List.mem_cons_of_mem _ tail.first_mem
    · exact List.mem_cons_of_mem _ (ih p hp n follows)

theorem orbit_of_chain {next : UInt32 → Option UInt32} {page : UInt32} {pages : List UInt32}
    (chain : PageChain next page pages) {n : Nat} (enough : pages.length ≤ n) :
    orbit next n page = pages := by
  induction chain generalizing n with
  | last h =>
    cases n with
    | zero => simp at enough
    | succ n => simp only [orbit, h]
  | more h tail ih =>
    cases n with
    | zero => simp at enough
    | succ n =>
      simp only [orbit, h]
      rw [ih (by simpa using enough)]

/-- A listing cut into pages: what is on each, which one it names next, and the pages from the first
    to the last. -/
structure Paged (α : Type) where
  items : UInt32 → List α
  next : UInt32 → Option UInt32
  pages : List UInt32
  chain : PageChain next 1 pages

def Paged.records (l : Paged α) : List α := l.pages.flatMap l.items

theorem Paged.exists_size (l : Paged α) {sizes : List UInt32}
    (enough : l.pages.length ≤ sizes.length) : ∃ size, size ∈ sizes :=
  List.exists_mem_of_length_pos
    (Nat.lt_of_lt_of_le (List.length_pos_of_mem l.chain.first_mem) enough)

theorem items_of_visits {γ : Type} {Visits : γ → UInt32 → Visit (SyncPage β) → Prop}
    {given : γ → List β}
    (gives : ∀ stop size v, Visits stop size v → v.items = given stop) {stops : List γ}
    {sizes : List UInt32} {visits : List (Visit (SyncPage β))}
    (seen : List.Forall₂ (fun stop v => Visits stop.1 stop.2 v) (stops.zip sizes) visits)
    (enough : stops.length ≤ sizes.length) :
    visits.length = stops.length ∧ visits.flatMap Visit.items = stops.flatMap given := by
  induction stops generalizing sizes visits with
  | nil =>
    cases seen
    exact ⟨rfl, rfl⟩
  | cons stop stops ih =>
    cases sizes with
    | nil => exact absurd enough (Nat.not_succ_le_zero _)
    | cons size sizes =>
      obtain _ | ⟨first, rest⟩ := seen
      obtain ⟨count, items⟩ := ih rest (Nat.le_of_succ_le_succ enough)
      refine ⟨by rw [List.length_cons, List.length_cons, count], ?_⟩
      rw [List.flatMap_cons, List.flatMap_cons, gives _ _ _ first, items]

theorem map_of_visits {γ δ : Type} {Visits : γ → UInt32 → Visit (SyncPage β) → Prop}
    {f : Visit (SyncPage β) → δ} {g : γ × UInt32 → δ}
    (tells : ∀ stop size v, Visits stop size v → f v = g (stop, size)) {stops : List (γ × UInt32)}
    {visits : List (Visit (SyncPage β))}
    (seen : List.Forall₂ (fun stop v => Visits stop.1 stop.2 v) stops visits) :
    visits.map f = stops.map g := by
  induction seen with
  | nil => rfl
  | cons own _ ih => rw [List.map_cons, List.map_cons, tells _ _ _ own, ih]

theorem walk_more {server : σ → Request → Answer × σ} {call : PageToken → Op (SyncPage β)}
    {size : UInt32} {token : String} {s s' : σ} {page : SyncPage β} {asked : List Request}
    (first : visit server (call ⟨token, size⟩) s = (⟨asked, .done page⟩, s'))
    (more : page.nextToken ≠ "") (sizes : List UInt32) :
    walk server call (size :: sizes) token s =
      ⟨asked, .done page⟩ :: walk server call sizes page.nextToken s' := by
  simp only [walk, first, more, ↓reduceIte]

theorem walk_last {server : σ → Request → Answer × σ} {call : PageToken → Op (SyncPage β)}
    {size : UInt32} {token : String} {s s' : σ} {page : SyncPage β} {asked : List Request}
    (first : visit server (call ⟨token, size⟩) s = (⟨asked, .done page⟩, s'))
    (last : page.nextToken = "") (sizes : List UInt32) :
    walk server call (size :: sizes) token s = [⟨asked, .done page⟩] := by
  simp only [walk, first, last, ↓reduceIte]

/-- A call from a place sees a stop. Either the stops end there, as does the walk, or its token
    points at the place from which they go on. -/
inductive Sees {γ δ : Type} (Points : String → γ → Prop)
    (Visits : δ → UInt32 → Visit (SyncPage β) → Prop) (stops : Nat → γ → List δ) (place : γ)
    (size : UInt32) : Visit (SyncPage β) → Prop where
  | last {asked : List Request} {page : SyncPage β} {stop : δ}
      (seen : Visits stop size ⟨asked, .done page⟩) (empty : page.nextToken = "")
      (ends : ∀ n, stops (n + 1) place = [stop]) :
      Sees Points Visits stops place size ⟨asked, .done page⟩
  | more {asked : List Request} {page : SyncPage β} {stop : δ} {following : γ}
      (seen : Visits stop size ⟨asked, .done page⟩) (unfinished : page.nextToken ≠ "")
      (points : Points page.nextToken following)
      (goesOn : ∀ n, stops (n + 1) place = stop :: stops n following) :
      Sees Points Visits stops place size ⟨asked, .done page⟩

/-- A walk follows the stops when every call sees its own, in the states that the calls keep to and
    with the sizes that they may ask for. -/
theorem walk_follows_within {γ δ : Type} {Points : String → γ → Prop}
    {Visits : δ → UInt32 → Visit (SyncPage β) → Prop} {stops : Nat → γ → List δ}
    {server : σ → Request → Answer × σ} {call : PageToken → Op (SyncPage β)} {Holds : σ → Prop}
    {Allowed : UInt32 → Prop} (none : ∀ place, stops 0 place = [])
    (sees : ∀ token place, Points token place → ∀ size, Allowed size → ∀ s, Holds s →
      Sees Points Visits stops place size (visit server (call ⟨token, size⟩) s).1 ∧
      Holds (visit server (call ⟨token, size⟩) s).2)
    (sizes : List UInt32) (allowed : ∀ size ∈ sizes, Allowed size) {token : String} {place : γ}
    (points : Points token place) {s : σ} (holds : Holds s) :
    List.Forall₂ (fun stop v => Visits stop.1 stop.2 v) ((stops sizes.length place).zip sizes)
      (walk server call sizes token s) := by
  induction sizes generalizing token place s with
  | nil =>
    rw [List.length_nil, none]
    exact .nil
  | cons size sizes ih =>
    obtain ⟨own, kept⟩ := sees token place points size (allowed size List.mem_cons_self) s holds
    have rest : ∀ size ∈ sizes, Allowed size :=
      fun size hsize => allowed size (List.mem_cons_of_mem _ hsize)
    rcases first : visit server (call ⟨token, size⟩) s with ⟨v, s'⟩
    rw [first] at own kept
    cases own with
    | last seen empty ends =>
      rw [walk_last first empty, List.length_cons, ends]
      exact .cons seen .nil
    | more seen unfinished points goesOn =>
      rw [walk_more first unfinished, List.length_cons, goesOn]
      exact .cons seen (ih rest points kept)

theorem walk_follows {γ δ : Type} {Points : String → γ → Prop}
    {Visits : δ → UInt32 → Visit (SyncPage β) → Prop} {stops : Nat → γ → List δ}
    {server : σ → Request → Answer × σ} {call : PageToken → Op (SyncPage β)}
    (none : ∀ place, stops 0 place = [])
    (sees : ∀ token place, Points token place → ∀ size s,
      Sees Points Visits stops place size (visit server (call ⟨token, size⟩) s).1)
    (sizes : List UInt32) {token : String} {place : γ} (points : Points token place) (s : σ) :
    List.Forall₂ (fun stop v => Visits stop.1 stop.2 v) ((stops sizes.length place).zip sizes)
      (walk server call sizes token s) := by
  have anywhere : ∀ token place, Points token place → ∀ size, True → ∀ s, True →
      Sees Points Visits stops place size (visit server (call ⟨token, size⟩) s).1 ∧ True :=
    fun token place points size _ s _ => ⟨sees token place points size s, trivial⟩
  exact walk_follows_within none anywhere sizes (fun _ _ => trivial) points trivial

end IdentitySync.Desk
