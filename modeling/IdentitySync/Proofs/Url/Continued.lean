import IdentitySync.Proofs.Text.Blank
import IdentitySync.Proofs.Url.Hosted

/-!
Addresses that go on. Text put behind an address leaves its scheme alone, and its authority when the
authority has already ended or ends there. What does not last are the blanks at the end of the
address: alone it is read without them, and in front of more text they are a part of it.
-/
namespace IdentitySync.Url
open Text

theorem map_eq_ok_iff {f : α → β} {r : Except ε α} {b : β} :
    r.map f = .ok b ↔ ∃ a, r = .ok a ∧ f a = b := by
  cases r <;> simp [Except.map]

def opened (cs : List Char) : List Char :=
  (cs.dropWhile isControlOrSpace).filter fun c => !(c = '\t' || c = '\n' || c = '\r')

theorem dropWhile_append_visible (cs : List Char) {y : List Char} (visible : Visible y) :
    (cs ++ y).dropWhile isControlOrSpace = cs.dropWhile isControlOrSpace ++ y := by
  rw [List.dropWhile_append]
  split
  · rename_i nothing
    rw [List.isEmpty_iff.mp nothing, visible.dropWhile, List.nil_append]
  · rfl

theorem opened_append (cs : List Char) {y : List Char} (visible : Visible y) :
    opened (cs ++ y) = opened cs ++ y := by
  rw [opened, dropWhile_append_visible cs visible, List.filter_append, visible.unbroken, opened]

theorem cleaned_append (cs : List Char) {y : List Char} (visible : Visible y) (more : y ≠ []) :
    cleaned (String.ofList (cs ++ y)) = opened cs ++ y := by
  have ends : (y.reverse ++ (cs.dropWhile isControlOrSpace).reverse).dropWhile isControlOrSpace =
      y.reverse ++ (cs.dropWhile isControlOrSpace).reverse := by
    rw [List.dropWhile_append, visible.reverse.dropWhile, if_neg (by simpa using more)]
  rw [cleaned, String.toList_ofList, dropWhile_append_visible cs visible, List.reverse_append, ends,
    List.reverse_append, List.reverse_reverse, List.reverse_reverse, List.filter_append,
    visible.unbroken, opened]

theorem opened_eq (cs : List Char) :
    ∃ blanks, opened cs = cleaned (String.ofList cs) ++ blanks := by
  have parts : (cs.dropWhile isControlOrSpace).rdropWhile isControlOrSpace ++
      (cs.dropWhile isControlOrSpace).rtakeWhile isControlOrSpace =
        cs.dropWhile isControlOrSpace := List.rdropWhile_append_rtakeWhile
  rw [opened, ← parts, List.filter_append, cleaned, String.toList_ofList]
  exact ⟨_, rfl⟩

theorem splitScheme?_eq_some_iff {cs rest : List Char} {scheme : String} :
    splitScheme? cs = some (scheme, rest) ↔
      ∃ first name, cs = first :: name ++ ':' :: rest ∧ isAsciiLetter first = true ∧
        (∀ c ∈ first :: name, isSchemeChar c = true) ∧
        scheme = String.ofList ((first :: name).map Char.toLower) := by
  have cut : ∀ {own behind : List Char}, (∀ c ∈ own, isSchemeChar c = true) →
      (∀ c ∈ behind.head?, isSchemeChar c = false) →
      (own ++ behind).takeWhile isSchemeChar = own ∧
        (own ++ behind).dropWhile isSchemeChar = behind := by
    intro own behind inside stop
    refine ⟨takeWhile_exact inside stop, ?_⟩
    rw [List.dropWhile_append_of_pos inside]
    cases behind with
    | nil => rfl
    | cons c behind => exact List.dropWhile_cons_of_neg (by simp [stop c rfl])
  constructor
  · intro split
    obtain ⟨own, behind, rfl, inside, stop⟩ := takeWhile_parts isSchemeChar cs
    obtain ⟨before, after⟩ := cut inside stop
    cases own with
    | nil =>
      cases behind with
      | nil => cases split
      | cons c behind =>
        have other : isAsciiLetter c = false := by
          have mark := stop c rfl
          simp only [isSchemeChar, Char.isAlphanum, Bool.or_eq_false_iff] at mark
          exact mark.1.1.1.1
        simp [splitScheme?, other] at split
    | cons first name =>
      rw [List.cons_append] at split before after
      simp only [splitScheme?, before, after] at split
      split at split
      · cases split
      · rename_i letter
        split at split
        · cases split
          exact ⟨first, name, rfl, by simpa using letter, inside, rfl⟩
        · cases split
  · rintro ⟨first, name, rfl, letter, own, rfl⟩
    have colon : ∀ c ∈ (':' :: rest).head?, isSchemeChar c = false := fun c first => by
      cases first
      rfl
    obtain ⟨before, after⟩ := cut own colon
    rw [List.cons_append] at before after ⊢
    simp [splitScheme?, letter, before, after]

theorem splitScheme?_append {cs rest : List Char} {scheme : String}
    (split : splitScheme? cs = some (scheme, rest)) (y : List Char) :
    splitScheme? (cs ++ y) = some (scheme, rest ++ y) := by
  obtain ⟨first, name, rfl, letter, own, lower⟩ := splitScheme?_eq_some_iff.mp split
  exact splitScheme?_eq_some_iff.mpr ⟨first, name, by simp, letter, own, lower⟩

theorem readPort_digits (scheme : String) {digits rest : List Char}
    (all : ∀ c ∈ digits, isDigit c = true) (ended : ∀ c ∈ rest.head?, isDigit c = false) :
    readPort scheme (digits ++ rest) =
      if rest.head?.all (endsAuthority .special) then
        match value? digits with
        | none => .ok (none, rest)
        | some n =>
          if 65535 < n then .error .badPort
          else .ok (if some n = defaultPort? scheme then none else some n, rest)
      else .error .badPort := by
  have cut : (digits ++ rest).takeWhile isDigit = digits := takeWhile_exact all ended
  simp only [readPort, cut, List.drop_left]
  cases rest with
  | nil => cases value? digits <;> simp
  | cons c rest =>
    cases fits : endsAuthority .special c <;> cases value? digits <;> simp [fits]

section
variable (scheme : String) (userInfo : Option String) (host : Option Host) (port : Option Nat)
  (readPath : List Char → List Char) (cs : List Char)

@[simp] theorem finish_userInfo :
    (finish scheme userInfo host port readPath cs).userInfo = userInfo := rfl

@[simp] theorem finish_host : (finish scheme userInfo host port readPath cs).host = host := rfl

@[simp] theorem finish_port : (finish scheme userInfo host port readPath cs).port = port := rfl

end

section
variable {own behind : List Char} (inside : ∀ c ∈ own, endsAuthority .special c = false)
  (stop : ∀ c ∈ behind.head?, endsAuthority .special c = true)
include inside stop

theorem takeWhile_authority :
    (own ++ behind).takeWhile (fun c => !endsAuthority .special c) = own :=
  takeWhile_exact (fun c mem => by simp [inside c mem]) fun c first => by simp [stop c first]

theorem splitUserInfo_append : splitUserInfo .special (own ++ behind) =
    ((splitUserInfo .special own).1, (splitUserInfo .special own).2 ++ behind) := by
  have alone : own.takeWhile (fun c => !endsAuthority .special c) = own :=
    List.takeWhile_eq_self_iff.mpr fun c mem => by simp [inside c mem]
  have shorter : ((own.reverse.takeWhile (· ≠ '@')).reverse).length ≤ own.length := by
    rw [List.length_reverse]
    exact Nat.le_trans (List.takeWhile_prefix _).length_le (Nat.le_of_eq List.length_reverse)
  simp only [splitUserInfo, takeWhile_authority inside stop, alone]
  split
  · rfl
  · rw [List.take_append_of_le_length (by omega), List.drop_append_of_le_length (by omega)]

theorem splitHost_append (inBrackets : Bool) :
    splitHost .special inBrackets (own ++ behind) =
      ((splitHost .special inBrackets own).1, (splitHost .special inBrackets own).2 ++ behind) := by
  induction own generalizing inBrackets with
  | nil =>
    cases behind with
    | nil => rfl
    | cons c behind => simp [splitHost, stop c rfl]
  | cons c own ih =>
    have others := ih fun d mem => inside d (List.mem_cons_of_mem c mem)
    rw [List.cons_append, splitHost, splitHost, others]
    split <;> rfl

theorem readPort_append (scheme : String) :
    readPort scheme (own ++ behind) = (readPort scheme own).map fun r => (r.1, behind) := by
  obtain ⟨digits, rest, parts, all, ended⟩ := takeWhile_parts isDigit own
  have notDigit : ∀ c, endsAuthority .special c = true → isDigit c = false := by
    intro c ends
    simp only [endsAuthority, isSlash, Bool.or_eq_true, Bool.and_eq_true, decide_eq_true_eq] at ends
    rcases ends with ((rfl | ⟨_, rfl⟩) | rfl) | rfl <;> decide
  rw [parts, List.append_assoc]
  cases rest with
  | nil =>
    have fits : behind.head?.all (endsAuthority .special) = true := by
      cases behind with
      | nil => rfl
      | cons c behind => exact stop c rfl
    rw [List.nil_append, readPort_digits scheme all fun c first => notDigit c (stop c first),
      readPort_digits scheme all ended, if_pos fits]
    cases value? digits with
    | none => rfl
    | some n => by_cases large : 65535 < n <;> simp [large, Except.map]
  | cons c rest =>
    have inner : endsAuthority .special c = false := inside c (by rw [parts]; simp)
    have other : ∀ d ∈ (c :: rest ++ behind).head?, isDigit d = false := fun d first =>
      ended d (by simpa using first)
    rw [readPort_digits scheme all other, readPort_digits scheme all ended,
      if_neg (by simp [inner]), if_neg (by simp [inner])]
    rfl

omit stop in
theorem splitHost_rest (inBrackets : Bool) :
    (splitHost .special inBrackets own).2 = [] ∨
      ∃ port, (splitHost .special inBrackets own).2 = ':' :: port ∧
        ∀ c ∈ port, endsAuthority .special c = false := by
  induction own generalizing inBrackets with
  | nil => exact .inl rfl
  | cons c own ih =>
    have others : ∀ d ∈ own, endsAuthority .special d = false := fun d mem =>
      inside d (List.mem_cons_of_mem c mem)
    rw [splitHost]
    split
    · rename_i ended
      rw [inside c List.mem_cons_self, Bool.or_false, Bool.and_eq_true, decide_eq_true_eq] at ended
      rw [ended.1]
      exact .inr ⟨own, rfl, others⟩
    · exact ih others _

omit stop in
theorem splitUserInfo_left :
    ∀ c ∈ (splitUserInfo .special own).2, endsAuthority .special c = false := by
  intro c mem
  simp only [splitUserInfo] at mem
  split at mem
  · exact inside c mem
  · exact inside c (List.mem_of_mem_drop mem)

/-- What stands behind the authority is path, query and fragment and decides nothing else. -/
theorem readAuthority_append {scheme : String} (special : schemeKind scheme = .special) :
    readAuthority scheme (own ++ behind) = (readAuthority scheme own).map fun l =>
      finish scheme l.userInfo l.host l.port (readPath .special) behind := by
  have user := splitUserInfo_append inside stop
  have left := splitUserInfo_left inside
  obtain ⟨info, cs, split⟩ : ∃ info cs, splitUserInfo .special own = (info, cs) := ⟨_, _, rfl⟩
  rw [split] at user left
  cases cs with
  | nil =>
    -- Without a host it makes no difference whether the authority is seen to end.
    have none : (splitHost .special false behind).1 = [] := by
      cases behind with
      | nil => rfl
      | cons d behind => simp [splitHost, stop d rfl]
    have unnamed : readAnyHost .special [] = .error .emptyHost := rfl
    have whole : readAuthority scheme (own ++ behind) = .error .emptyHost := by
      simp only [readAuthority, special, user, List.nil_append, none, unnamed, ite_self]
    have alone : readAuthority scheme own = .error .emptyHost := by
      simp only [readAuthority, special, split, splitHost, unnamed, ite_self]
    rw [whole, alone]
    rfl
  | cons c cs =>
    have here : endsAuthority .special c = false := left c List.mem_cons_self
    have named := splitHost_append left stop false
    rw [List.cons_append] at named
    simp only [readAuthority, special, user, split, named, List.cons_append, List.head?_cons,
      Option.map_some, here, Option.getD_some, Bool.and_false, Bool.false_eq_true, ↓reduceIte]
    cases readAnyHost .special (splitHost .special false (c :: cs)).1 with
    | error e => rfl
    | ok host =>
      rcases splitHost_rest left false with none | ⟨port, colon, inner⟩
      · have apart : behind.head? ≠ some ':' := fun colon => by cases stop ':' colon
        simp only [none, List.nil_append, apart, List.head?_nil, reduceCtorEq, decide_false]
        split
        · rfl
        · cases behind with
          | nil => rfl
          | cons d behind =>
            have noPort : d ≠ ':' := by simpa using apart
            simp [noPort, Except.map]
      · have read := readPort_append inner stop scheme
        simp only [colon, List.cons_append, List.head?_cons, decide_true, Bool.true_or,
          Bool.and_true, read]
        split
        · rfl
        · cases readPort scheme port <;> rfl

end

def Untailed (cs : List Char) : Prop := ∀ c ∈ cs, startsTail c = false

theorem untailed_append_iff {cs ds : List Char} : Untailed (cs ++ ds) ↔ Untailed cs ∧ Untailed ds :=
  List.forall_mem_append

section
variable {cs : List Char}

theorem splitTail_untailed (whole : Untailed cs) : splitTail cs = (cs, none, none) := by
  have path : cs.takeWhile (fun c => !startsTail c) = cs :=
    List.takeWhile_eq_self_iff.mpr fun c mem => by simp [whole c mem]
  rw [splitTail, path]
  simp

theorem splitTail_tailed (tailed : ¬Untailed cs) : (splitTail cs).2 ≠ (none, none) := by
  obtain ⟨own, behind, rfl, inside, stop⟩ := takeWhile_parts (fun c => !startsTail c) cs
  have path := takeWhile_exact inside stop
  cases behind with
  | nil =>
    rw [List.append_nil] at tailed
    exact absurd (fun c mem => by simpa using inside c mem) tailed
  | cons c behind =>
    have mark : startsTail c = true := by simpa using stop c rfl
    simp only [startsTail, Bool.or_eq_true, decide_eq_true_eq] at mark
    simp only [splitTail, path, List.drop_left]
    rcases mark with rfl | rfl
    · simp only
      split <;> simp
    · simp

variable {scheme : String} {userInfo : Option String} {host : Option Host} {port : Option Nat}
  {readPath : List Char → List Char}

theorem finish_tail_iff :
    ((finish scheme userInfo host port readPath cs).query = none ∧
      (finish scheme userInfo host port readPath cs).fragment = none) ↔ Untailed cs := by
  constructor
  · rintro ⟨noQuery, noFragment⟩
    by_contra tailed
    refine splitTail_tailed tailed (Prod.ext ?_ ?_)
    · exact Option.map_eq_none_iff.mp noQuery
    · exact Option.map_eq_none_iff.mp noFragment
  · intro whole
    simp only [finish, splitTail_untailed whole]
    exact ⟨rfl, rfl⟩

theorem finish_path (whole : Untailed cs) :
    (finish scheme userInfo host port readPath cs).path = String.ofList (readPath cs) := by
  simp only [finish, splitTail_untailed whole]

end

theorem authority_parts (cs : List Char) :
    ∃ own behind, cs = own ++ behind ∧ (∀ c ∈ own, endsAuthority .special c = false) ∧
      ∀ c ∈ behind.head?, endsAuthority .special c = true := by
  obtain ⟨own, behind, parts, inside, stop⟩ :=
    takeWhile_parts (fun c => !endsAuthority .special c) cs
  exact ⟨own, behind, parts, fun c mem => by simpa using inside c mem,
    fun c first => by simpa using stop c first⟩

theorem untailed_of_authority {own : List Char}
    (inside : ∀ c ∈ own, endsAuthority .special c = false) : Untailed own := by
  intro c mem
  have none := inside c mem
  rw [endsAuthority, Bool.or_assoc, Bool.or_eq_false_iff] at none
  exact none.2

theorem readAuthority_tail_iff {scheme : String} {cs : List Char} {l : Location}
    (special : schemeKind scheme = .special) (read : readAuthority scheme cs = .ok l) :
    (l.query = none ∧ l.fragment = none) ↔ Untailed cs := by
  obtain ⟨own, behind, rfl, inside, stop⟩ := authority_parts cs
  rw [readAuthority_append inside stop special] at read
  obtain ⟨a, _, rfl⟩ := map_eq_ok_iff.mp read
  rw [finish_tail_iff, untailed_append_iff]
  exact (and_iff_right (untailed_of_authority inside)).symm

theorem readAuthority_scheme {scheme : String} {cs : List Char} {l : Location}
    (read : readAuthority scheme cs = .ok l) : l.scheme = scheme := by
  simp only [readAuthority] at read
  split at read
  · cases read
  · split at read
    · cases read
    · split at read
      · cases read
      · split at read
        · cases read
        · cases read
          rfl

theorem readFile_scheme {cs : List Char} {l : Location} (read : readFile cs = .ok l) :
    l.scheme = "file" := by
  unfold readFile at read
  split at read
  · split at read
    · simp only at read
      split at read
      · cases read
        rfl
      · split at read
        · cases read
          rfl
        · split at read
          · cases read
          · cases read
            rfl
    · cases read
      rfl
  · cases read
    rfl

theorem readPlain_scheme {scheme : String} {cs : List Char} {l : Location}
    (read : readPlain scheme cs = .ok l) : l.scheme = scheme := by
  unfold readPlain at read
  split at read
  · exact readAuthority_scheme read
  · cases read
    rfl
  · cases read
    rfl

theorem parse_scheme {t : String} {l : Location} (parsed : parse t = .ok l) :
    ∃ rest, splitScheme? (cleaned t) = some (l.scheme, rest) := by
  rw [parse] at parsed
  split at parsed
  · cases parsed
  · rename_i scheme rest split
    refine ⟨rest, ?_⟩
    split at parsed
    · rename_i file
      have own : scheme = "file" := by
        by_contra other
        rw [schemeKind, if_neg other] at file
        split at file <;> cases file
      rw [split, own, readFile_scheme parsed]
    · rw [split, readAuthority_scheme parsed]
    · rw [split, readPlain_scheme parsed]

theorem parse_special {t : String} {l : Location} (parsed : parse t = .ok l)
    (special : schemeKind l.scheme = .special) :
    ∃ rest, splitScheme? (cleaned t) = some (l.scheme, rest) ∧
      readAuthority l.scheme (rest.dropWhile (isSlash .special)) = .ok l := by
  obtain ⟨rest, split⟩ := parse_scheme parsed
  rw [parse, split] at parsed
  simp only [special] at parsed
  exact ⟨rest, split, parsed⟩

/-- An address with a special scheme goes on with any text behind it that only adds to what is
    read of it. -/
theorem parse_continued {t : String} {l : Location} (parsed : parse t = .ok l)
    (special : schemeKind l.scheme = .special) :
    ∃ behind, behind <:+ cleaned t ∧ readAuthority l.scheme behind = .ok l ∧
      ∀ t' more, cleaned t' = cleaned t ++ more →
        parse t' = readAuthority l.scheme (behind ++ more) := by
  obtain ⟨rest, split, read⟩ := parse_special parsed special
  refine ⟨rest.dropWhile (isSlash .special), ?_, read, ?_⟩
  · obtain ⟨first, name, whole, _⟩ := splitScheme?_eq_some_iff.mp split
    refine (List.dropWhile_suffix _).trans ⟨first :: name ++ [':'], ?_⟩
    rw [whole, List.append_assoc]
    rfl
  · intro t' more goesOn
    have named : ¬(rest.dropWhile (isSlash .special)).isEmpty = true := by
      intro nothing
      rw [List.isEmpty_iff.mp nothing] at read
      simp [readAuthority, special, splitUserInfo, splitHost, readAnyHost] at read
    have slashes : (rest ++ more).dropWhile (isSlash .special) =
        rest.dropWhile (isSlash .special) ++ more := by
      rw [List.dropWhile_append, if_neg named]
    rw [parse, goesOn, splitScheme?_append split more]
    simp only [special, slashes]

end IdentitySync.Url
