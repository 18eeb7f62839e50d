import IdentitySync.Proofs.Desk.OverlongDelay
import IdentitySync.Proofs.Text.Blank

/-!
What is said about the quota and what the headers say. A header counts when its name comes first in
its list and its value is a numeral between spaces and tabs. There is a report exactly when one of
the three headers counts, and its numbers are those of the headers, zero where there is none. That
zero is also taken for a window of which nothing is left, and a zero that was sent counts only with
a limit: where one of the two headers comes without the other, the status may not be what was said.
-/
namespace IdentitySync.Http
open Text Time

def HasHeader (headers : List (String × String)) (name value : String) : Prop :=
  ∃ before own after, headers = before ++ (own, value) :: after ∧
    lowerAscii own = lowerAscii name ∧ ∀ h ∈ before, lowerAscii h.1 ≠ lowerAscii name

/-- The number that a header is written for, with spaces and tabs around it. -/
def Reports (headers : List (String × String)) (name : String) (n : UInt64) : Prop :=
  ∃ value before numeral after, HasHeader headers name value ∧
    value.toList = before ++ (numeral ++ after) ∧ IsNumeral n.toNat numeral ∧
    (∀ c ∈ before, c = ' ' ∨ c = '\t') ∧ ∀ c ∈ after, c = ' ' ∨ c = '\t'

variable {headers : List (String × String)} {name : String}

theorem header?_eq_some_iff {value : String} :
    header? headers name = some value ↔
      HasHeader headers name value ∧ ∀ c ∈ value.toList, isVisible c = true := by
  rw [header?, Option.bind_eq_some_iff]
  constructor
  · rintro ⟨⟨own, text⟩, found, legible⟩
    obtain ⟨same, before, after, parts, others⟩ := List.find?_eq_some_iff_append.mp found
    obtain ⟨visible, given⟩ := Option.ite_none_right_eq_some.mp legible
    cases given
    exact ⟨⟨before, own, after, parts, by simpa using same,
      fun h hh => by simpa using others h hh⟩, List.all_eq_true.mp visible⟩
  · rintro ⟨⟨before, own, after, parts, same, others⟩, visible⟩
    refine ⟨(own, value), List.find?_eq_some_iff_append.mpr ?_, ?_⟩
    · exact ⟨by simpa using same, before, after, parts, fun h hh => by simpa using others h hh⟩
    · rw [if_pos (List.all_eq_true.mpr visible)]

theorem space_or_tab_of_isVisible {c : Char} (visible : isVisible c = true)
    (blank : isBlank c = true) : c = ' ' ∨ c = '\t' := by
  have code : c.toNat = 32 ∨ c.toNat = 9 := by
    simp only [isVisible, Bool.or_eq_true, Bool.and_eq_true, decide_eq_true_eq] at visible
    rcases visible with rfl | ⟨low, high⟩
    · exact .inr rfl
    · simp [isBlank, inRanges, blankRanges] at blank
      omega
  rcases code with space | tab
  · exact .inl (Char.toNat_inj.mp space)
  · exact .inr (Char.toNat_inj.mp tab)

theorem not_blank_of_isNumeral {n : Nat} {cs : List Char} (numeral : IsNumeral n cs) :
    cs ≠ [] ∧ ∀ c ∈ cs, isVisible c = true ∧ isBlank c = false := by
  obtain ⟨sign, known, zeros, rfl⟩ := numeral
  constructor
  · exact List.append_ne_nil_of_right_ne_nil _
      (List.append_ne_nil_of_right_ne_nil _ (digits_ne_nil n))
  · intro c own
    have plus : sign = [] ∨ sign = ['+'] := by simpa using known
    rcases List.mem_append.mp own with signed | digit
    · rcases plus with rfl | rfl
      · cases signed
      · rw [List.mem_singleton.mp signed]
        decide
    · have range := isDigit_range (isDigit_of_mem_zeros digit)
      refine ⟨?_, not_blank_of_isDigit (isDigit_of_mem_zeros digit)⟩
      simp only [isVisible, Bool.or_eq_true, Bool.and_eq_true, decide_eq_true_eq]
      omega

theorem numberHeader?_eq_some_iff {n : UInt64} :
    numberHeader? headers name = some n ↔ Reports headers name n := by
  rw [numberHeader?, Option.bind_eq_some_iff]
  constructor
  · rintro ⟨value, own, read⟩
    obtain ⟨first, visible⟩ := header?_eq_some_iff.mp own
    obtain ⟨before, after, blankBefore, blankAfter, parts⟩ := trimChars_parts value.toList
    have numeral := readWord64?_eq_some_iff.mp read
    rw [trim_toList] at numeral
    refine ⟨value, before, trimChars value.toList, after, first, parts, numeral,
      fun c hc => ?_, fun c hc => ?_⟩
    · refine space_or_tab_of_isVisible (visible c ?_) (blankBefore c hc)
      rw [parts]
      exact List.mem_append_left _ hc
    · refine space_or_tab_of_isVisible (visible c ?_) (blankAfter c hc)
      rw [parts]
      exact List.mem_append_right _ (List.mem_append_right _ hc)
  · rintro ⟨value, before, numeral, after, first, parts, number, spacesBefore, spacesAfter⟩
    obtain ⟨filled, plain⟩ := not_blank_of_isNumeral number
    have space : ∀ {c : Char}, c = ' ' ∨ c = '\t' → isVisible c = true ∧ isBlank c = true := by
      rintro c (rfl | rfl) <;> decide
    refine ⟨value, header?_eq_some_iff.mpr ⟨first, ?_⟩, readWord64?_eq_some_iff.mpr ?_⟩
    · intro c own
      rw [parts, List.mem_append, List.mem_append] at own
      rcases own with before | number | after
      · exact (space (spacesBefore c before)).1
      · exact (plain c number).1
      · exact (space (spacesAfter c after)).1
    · rw [trim_toList, parts, trimChars_surrounded
        (trimmed_of_noBlank fun c own => (plain c own).2) filled
        (fun c own => (space (spacesBefore c own)).2) fun c own => (space (spacesAfter c own)).2]
      exact number

theorem numberHeader?_eq_none_iff :
    numberHeader? headers name = none ↔ ∀ n, ¬Reports headers name n := by
  simp only [Option.eq_none_iff_forall_ne_some, ne_eq, numberHeader?_eq_some_iff]

def limitHeader : String := "X-RateLimit-Total"

def remainingHeader : String := "X-RateLimit-Remaining"

def delayHeader : String := "Retry-After"

def Silent (headers : List (String × String)) : Prop :=
  ∀ name ∈ [limitHeader, remainingHeader, delayHeader], ∀ n, ¬Reports headers name n

def ReportsOrZero (headers : List (String × String)) (name : String) (n : UInt64) : Prop :=
  Reports headers name n ∨ ((∀ m, ¬Reports headers name m) ∧ n = 0)

theorem numberHeader?_getD : ReportsOrZero headers name ((numberHeader? headers name).getD 0) := by
  cases number : numberHeader? headers name with
  | none => exact .inr ⟨numberHeader?_eq_none_iff.mp number, rfl⟩
  | some n => exact .inl (numberHeader?_eq_some_iff.mp number)

/-- How a quota comes from an answer. -/
structure ToldBy (r : Response) (q : RateLimit) : Prop where
  limit : ReportsOrZero r.headers limitHeader q.limit
  remaining : ReportsOrZero r.headers remainingHeader q.remaining
  overlimit : q.status = .overlimit ↔
    r.status = 429 ∨ ((∃ n, Reports r.headers limitHeader n) ∧ q.remaining = 0)
  ok : q.status = .ok ↔ q.status ≠ .overlimit
  reset : resetAt? r.receivedAt r.retryAfter = some q.resetAt

/-- The status is over the limit exactly when the answer says so. -/
def IsFaithful (r : Response) (q : RateLimit) : Prop :=
  q.status = .overlimit ↔ r.status = 429 ∨ Reports r.headers remainingHeader 0

theorem quota?_eq_silent_iff (r : Response) : quota? r = some none ↔ Silent r.headers := by
  have silent : Silent r.headers ↔ numberHeader? r.headers limitHeader = none ∧
      numberHeader? r.headers remainingHeader = none ∧ r.retryAfter = none := by
    rw [Response.retryAfter, ← delayHeader, numberHeader?_eq_none_iff, numberHeader?_eq_none_iff,
      numberHeader?_eq_none_iff]
    simp [Silent]
  rw [silent]
  simp only [quota?]
  split
  · rename_i none
    simp only [Bool.and_eq_true, Option.isNone_iff_eq_none] at none
    exact ⟨fun _ => ⟨none.1.1, none.1.2, none.2⟩, fun _ => rfl⟩
  · rename_i some
    simp only [Bool.and_eq_true, Option.isNone_iff_eq_none] at some
    constructor
    · intro told
      cases reset : resetAt? r.receivedAt r.retryAfter <;> rw [reset] at told <;> cases told
    · rintro ⟨limit, remaining, delay⟩
      exact absurd ⟨⟨limit, remaining⟩, delay⟩ some

theorem quota?_toldBy {r : Response} {q : RateLimit} (told : quota? r = some (some q)) :
    ToldBy r q := by
  simp only [quota?] at told
  split at told
  · cases told
  · obtain ⟨reset, moment, same⟩ := Option.map_eq_some_iff.mp told
    cases same
    have limited : (numberHeader? r.headers limitHeader).isSome = true ↔
        ∃ n, Reports r.headers limitHeader n := by
      simp only [Option.isSome_iff_exists, numberHeader?_eq_some_iff]
    have exceeds : ∀ exceeded : Bool,
        (if exceeded then RateLimitStatus.overlimit else .ok) = .overlimit ↔ exceeded = true := by
      decide
    refine ⟨numberHeader?_getD, numberHeader?_getD, ?_, ?_, moment⟩
    · refine (exceeds _).trans ?_
      rw [← limited]
      simp only [Bool.or_eq_true, Bool.and_eq_true, decide_eq_true_eq]
      rfl
    · simp only
      split <;> decide

theorem Reports.unique {m n : UInt64} (hm : Reports headers name m) (hn : Reports headers name n) :
    m = n :=
  Option.some.inj ((numberHeader?_eq_some_iff.mpr hm).symm.trans (numberHeader?_eq_some_iff.mpr hn))

/-- Unless the answer is one of too many requests, the status is faithful when something is left
    and when limit and rest of the window come together or not at all. -/
theorem ToldBy.isFaithful_iff {r : Response} {q : RateLimit} (told : ToldBy r q) :
    IsFaithful r q ↔ r.status = 429 ∨ (∃ n, Reports r.headers remainingHeader n ∧ n ≠ 0) ∨
      ((∃ n, Reports r.headers limitHeader n) ↔ ∃ n, Reports r.headers remainingHeader n) := by
  rw [IsFaithful, told.overlimit]
  by_cases many : r.status = 429
  · simp [many]
  · simp only [many, false_or]
    rcases told.remaining with reported | ⟨none, zero⟩
    · have zero : Reports r.headers remainingHeader 0 ↔ q.remaining = 0 :=
        ⟨fun zero => reported.unique zero, fun zero => zero ▸ reported⟩
      have left : (∃ n, Reports r.headers remainingHeader n ∧ n ≠ 0) ↔ q.remaining ≠ 0 := by
        constructor
        · rintro ⟨n, own, some⟩
          rwa [reported.unique own]
        · exact fun some => ⟨_, reported, some⟩
      have some : ∃ n, Reports r.headers remainingHeader n := ⟨_, reported⟩
      by_cases none : q.remaining = 0
      · simp only [zero, left, some, none, and_true, iff_true, ne_eq, not_true, false_or]
      · simp only [zero, left, none, and_false, not_false_eq_true, ne_eq, true_or]
    · have nothing : ¬∃ n, Reports r.headers remainingHeader n := fun ⟨n, own⟩ => none n own
      have noneLeft : ¬∃ n, Reports r.headers remainingHeader n ∧ n ≠ 0 :=
        fun ⟨n, own, _⟩ => none n own
      simp only [zero, and_true, none 0, nothing, noneLeft, iff_false, false_or]

/-- An answer whose delay does not lead beyond the calendar has a quota exactly when one of the
    three headers counts, and it is told from them. Where its status is not what the answer says,
    the answer has a limit and not a word on what is left of it, or nothing left and no limit. -/
theorem quota_told_by_headers (r : Response) (within : ¬LeadsBeyond r) :
    (quota? r = some none ↔ Silent r.headers) ∧
    (¬Silent r.headers → ∃ q, quota? r = some (some q) ∧ ToldBy r q ∧
      (IsFaithful r q ↔ r.status = 429 ∨ (∃ n, Reports r.headers remainingHeader n ∧ n ≠ 0) ∨
        ((∃ n, Reports r.headers limitHeader n) ↔ ∃ n, Reports r.headers remainingHeader n))) := by
  refine ⟨quota?_eq_silent_iff r, fun heard => ?_⟩
  cases told : quota? r with
  | none => exact absurd ((quota?_eq_none_iff r).mp told) within
  | some quota =>
    cases quota with
    | none => exact absurd ((quota?_eq_silent_iff r).mp told) heard
    | some q => exact ⟨q, rfl, quota?_toldBy told, (quota?_toldBy told).isFaithful_iff⟩

def busyWindow : Response :=
  ⟨200, [("retry-after", "30"), ("X-RateLimit-Remaining", "\t+007 "), ("X-RATELIMIT-TOTAL", "140"),
    ("X-RateLimit-Remaining", "0")], .ok "", Desk.midnight⟩

theorem busy_window_told : ¬LeadsBeyond busyWindow ∧
    ∃ q, quota? busyWindow = some (some q) ∧ ToldBy busyWindow q ∧ IsFaithful busyWindow q := by
  have within : ¬LeadsBeyond busyWindow := by
    rw [← quota?_eq_none_iff]
    decide +kernel
  have left : Reports busyWindow.headers remainingHeader 7 :=
    numberHeader?_eq_some_iff.mp (by decide +kernel)
  obtain ⟨_, heard⟩ := quota_told_by_headers busyWindow within
  obtain ⟨q, told, own, faithful⟩ := heard fun silent => silent _ (by decide) 7 left
  exact ⟨within, q, told, own, faithful.mpr (.inr (.inl ⟨7, left, by decide⟩))⟩

def limitOnly : Response := ⟨200, [("X-RateLimit-Total", "140")], .ok "", Desk.midnight⟩

def noneLeft : Response := ⟨200, [("X-RateLimit-Remaining", "0")], .ok "", Desk.midnight⟩

theorem lone_headers_mislead :
    (quota? limitOnly = some (some ⟨.overlimit, 140, 0, none⟩) ∧ limitOnly.status ≠ 429 ∧
      ∀ n, ¬Reports limitOnly.headers remainingHeader n) ∧
    quota? noneLeft = some (some ⟨.ok, 0, 0, none⟩) ∧
      Reports noneLeft.headers remainingHeader 0 := by
  refine ⟨⟨by decide +kernel, by decide, ?_⟩, by decide +kernel, ?_⟩
  · exact numberHeader?_eq_none_iff.mp (by decide +kernel)
  · exact numberHeader?_eq_some_iff.mp (by decide +kernel)

end IdentitySync.Http
