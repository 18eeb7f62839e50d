import IdentitySync.Url.Basic
import Mathlib.Data.List.TakeWhile

/-!
Addresses that go on behind a host. Behind a host of letters, digits, hyphens and full stops
anything may follow a slash: whether the text is a URL is decided by the host alone.
-/
namespace IdentitySync.Url

theorem takeWhile_exact {p : Char → Bool} {own behind : List Char} (inside : ∀ c ∈ own, p c = true)
    (stop : ∀ c ∈ behind.head?, p c = false) : (own ++ behind).takeWhile p = own := by
  rw [List.takeWhile_append_of_pos inside]
  cases behind with
  | nil => exact List.append_nil own
  | cons c behind => rw [List.takeWhile_cons_of_neg (by simp [stop c rfl]), List.append_nil]

theorem takeWhile_parts (p : Char → Bool) (cs : List Char) :
    ∃ own behind, cs = own ++ behind ∧ (∀ c ∈ own, p c = true) ∧
      ∀ c ∈ behind.head?, p c = false := by
  refine ⟨cs.takeWhile p, cs.dropWhile p, List.takeWhile_append_dropWhile.symm,
    fun c mem => List.mem_takeWhile_imp mem, fun c first => ?_⟩
  have stopped := List.head?_dropWhile_not p cs
  rw [Option.mem_def.mp first] at stopped
  simpa using stopped

def isHostChar (c : Char) : Bool := c.isAlphanum || c = '-' || c = '.'

def Visible (cs : List Char) : Prop := ∀ c ∈ cs, isControlOrSpace c = false

-- By the characters of the text: deciding it for all characters there are would not end soon.
instance (cs : List Char) : Decidable (Visible cs) :=
  decidable_of_iff ((cs.all fun c => !isControlOrSpace c) = true) <| by
    simp only [Visible, List.all_eq_true, Bool.not_eq_true']

theorem visible_append_iff {cs ds : List Char} : Visible (cs ++ ds) ↔ Visible cs ∧ Visible ds :=
  List.forall_mem_append

theorem space_lt_of_isAlphanum {c : Char} (h : c.isAlphanum = true) : 32 < c.toNat := by
  change (c.isUpper || c.isLower || c.isDigit) = true at h
  rw [Bool.or_eq_true, Bool.or_eq_true] at h
  rcases h with (upper | lower) | digit
  · have fromA : 65 ≤ c.toNat := (of_decide_eq_true upper).1
    omega
  · have fromA : 97 ≤ c.toNat := of_decide_eq_true (Bool.and_eq_true_iff.mp lower).1
    omega
  · have fromZero : 48 ≤ c.toNat := of_decide_eq_true (Bool.and_eq_true_iff.mp digit).1
    omega

theorem isHostChar_visible {c : Char} (h : isHostChar c = true) : isControlOrSpace c = false := by
  rw [isControlOrSpace, decide_eq_false_iff_not, Nat.not_le]
  simp only [isHostChar, Bool.or_eq_true, decide_eq_true_eq] at h
  rcases h with (letter | rfl) | rfl
  · exact space_lt_of_isAlphanum letter
  · decide
  · decide

theorem isHostChar_apart {c d : Char} (h : isHostChar c = true) (other : isHostChar d = false) :
    c ≠ d := fun same => by rw [same, other] at h; cases h

theorem isHostChar_endsNothing {c : Char} (h : isHostChar c = true) :
    endsAuthority .special c = false := by
  have slash : c ≠ '/' := isHostChar_apart h (by decide)
  have backslash : c ≠ '\\' := isHostChar_apart h (by decide)
  have question : c ≠ '?' := isHostChar_apart h (by decide)
  have hash : c ≠ '#' := isHostChar_apart h (by decide)
  simp [endsAuthority, isSlash, slash, backslash, question, hash]

theorem Visible.dropWhile {cs : List Char} (visible : Visible cs) :
    cs.dropWhile isControlOrSpace = cs := by
  cases cs with
  | nil => rfl
  | cons c cs => rw [List.dropWhile_cons_of_neg (by simp [visible c List.mem_cons_self])]

theorem Visible.reverse {cs : List Char} (visible : Visible cs) : Visible cs.reverse :=
  fun c own => visible c (List.mem_reverse.mp own)

theorem Visible.unbroken {cs : List Char} (visible : Visible cs) :
    (cs.filter fun c => !(c = '\t' || c = '\n' || c = '\r')) = cs := by
  rw [List.filter_eq_self]
  intro c hc
  have above := visible c hc
  have tab : c ≠ '\t' := fun same => by rw [same] at above; cases above
  have newline : c ≠ '\n' := fun same => by rw [same] at above; cases above
  have carriage : c ≠ '\r' := fun same => by rw [same] at above; cases above
  simp [tab, newline, carriage]

theorem cleaned_visible {cs : List Char} (visible : Visible cs) :
    cleaned (String.ofList cs) = cs := by
  rw [cleaned, String.toList_ofList, visible.dropWhile, visible.reverse.dropWhile,
    List.reverse_reverse, visible.unbroken]

section
variable {host : List Char} (plain : ∀ c ∈ host, isHostChar c = true)
include plain

theorem splitUserInfo_plain (rest : List Char) :
    splitUserInfo .special (host ++ '/' :: rest) = (none, host ++ '/' :: rest) := by
  have authority : (host ++ '/' :: rest).takeWhile (fun c => !endsAuthority .special c) = host :=
    takeWhile_exact (fun c hc => by simp [isHostChar_endsNothing (plain c hc)]) fun c first => by
      cases first
      rfl
  have noSign : host.reverse.takeWhile (· ≠ '@') = host.reverse := by
    rw [List.takeWhile_eq_self_iff]
    intro c hc
    have apart : c ≠ '@' := isHostChar_apart (plain c (List.mem_reverse.mp hc)) (by decide)
    simpa using apart
  simp only [splitUserInfo, authority, noSign, List.reverse_reverse, ↓reduceIte]

theorem splitHost_plain (rest : List Char) :
    splitHost .special false (host ++ '/' :: rest) = (host, '/' :: rest) := by
  induction host with
  | nil => rfl
  | cons c host ih =>
    have own := plain c List.mem_cons_self
    have colon : c ≠ ':' := isHostChar_apart own (by decide)
    have opening : c ≠ '[' := isHostChar_apart own (by decide)
    have closing : c ≠ ']' := isHostChar_apart own (by decide)
    have others := ih fun d hd => plain d (List.mem_cons_of_mem c hd)
    simp [splitHost, colon, opening, closing, isHostChar_endsNothing own, others]

/-- Where the host stands, the text behind its slash does not matter. -/
theorem parse_hosted (named : host ≠ []) {rest : List Char} (visible : Visible rest) :
    parse (String.ofList ("https://".toList ++ (host ++ '/' :: rest))) =
      (readHost host).map fun h =>
        finish "https" none (if isEmptyDomain h then none else some h) none (readPath .special)
          ('/' :: rest) := by
  have whole : Visible ("https://".toList ++ (host ++ '/' :: rest)) := by
    have slash : Visible ['/'] := by decide
    have hostVisible : Visible host := fun c hc => isHostChar_visible (plain c hc)
    have schemeVisible : Visible "https://".toList := by decide
    rw [List.append_cons, visible_append_iff, visible_append_iff, visible_append_iff]
    exact ⟨schemeVisible, ⟨hostVisible, slash⟩, visible⟩
  have scheme : splitScheme? ("https://".toList ++ (host ++ '/' :: rest)) =
      some ("https", '/' :: '/' :: (host ++ '/' :: rest)) := rfl
  have slashes : ('/' :: '/' :: (host ++ '/' :: rest)).dropWhile (isSlash .special) =
      host ++ '/' :: rest := by
    cases host with
    | nil => exact absurd rfl named
    | cons c host =>
      have own := isHostChar_endsNothing (plain c List.mem_cons_self)
      simp only [endsAuthority, Bool.or_eq_false_iff] at own
      change (c :: (host ++ '/' :: rest)).dropWhile (isSlash .special) = _
      rw [List.dropWhile_cons_of_neg (by simp [own.1.1])]
      rfl
  have kind : schemeKind "https" = .special := by decide
  have anyHost : readAnyHost .special host = readHost host := by
    simp [readAnyHost, named]
  simp only [parse, cleaned_visible whole, scheme, kind, slashes, readAuthority,
    splitUserInfo_plain plain, splitHost_plain plain, Option.bind_none, anyHost]
  cases readHost host with
  | error e => rfl
  | ok h =>
    have nothingBefore :
        (decide (('/' :: rest).head? = some ':') || (none : Option String).isSome) = false := rfl
    simp only [nothingBefore, Bool.and_false, Bool.false_eq_true, ↓reduceIte]
    rfl

end

end IdentitySync.Url
