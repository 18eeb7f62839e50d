import IdentitySync.Proofs.Desk.Addressing
import IdentitySync.Proofs.Text.Blank

/-!
Ways to write down the domain of an account. Around the label there may be a scheme, further labels,
slashes at the end and white space, and no other text is taken. What is read is the label in small
letters. Written alone it is read as itself, so the subdomain of an account that was built passes
the check that it went through, and its addresses begin with the host of that label.
-/
namespace IdentitySync

namespace Desk
open Text

/-- A way to write down the domain of the account with the label. -/
structure Spelling where
  before : List Char
  scheme : List Char
  label : List Char
  behind : List Char
  slashes : Nat
  after : List Char
  blankBefore : ∀ c ∈ before, isBlank c = true
  webScheme : scheme ∈ [[], "http://".toList, "https://".toList]
  named : label ≠ []
  plain : ∀ c ∈ label, isSubdomainChar c = true
  dotted : behind = [] ∨ ∃ rest, behind = '.' :: rest
  blankAfter : ∀ c ∈ after, isBlank c = true

namespace Spelling

def ending (s : Spelling) : List Char := s.behind ++ (List.replicate s.slashes '/' ++ s.after)

def text (s : Spelling) : String :=
  String.ofList (s.before ++ (s.scheme ++ (s.label ++ s.ending)))

def subdomain (s : Spelling) : String := String.ofList (s.label.map Char.toLower)

end Spelling

theorem isSubdomainChar_apart {c d : Char} (own : isSubdomainChar c = true)
    (other : isSubdomainChar d = false) : c ≠ d := by
  intro same
  rw [same, other] at own
  cases own

theorem isSubdomainChar_notBlank {c : Char} (own : isSubdomainChar c = true) :
    isBlank c = false := by
  have range : 45 ≤ c.toNat ∧ c.toNat ≤ 122 := by
    rw [isSubdomainChar, Bool.or_eq_true, decide_eq_true_eq] at own
    rcases own with letter | rfl
    · change (c.isUpper || c.isLower || c.isDigit) = true at letter
      rw [Bool.or_eq_true, Bool.or_eq_true] at letter
      rcases letter with (upper | lower) | digit
      · obtain ⟨fromA, toZ⟩ : 65 ≤ c.toNat ∧ c.toNat ≤ 90 := of_decide_eq_true upper
        omega
      · obtain ⟨fromA, toZ⟩ := Bool.and_eq_true_iff.mp lower
        have fromA : 97 ≤ c.toNat := of_decide_eq_true fromA
        have toZ : c.toNat ≤ 122 := of_decide_eq_true toZ
        omega
      · obtain ⟨fromZero, toNine⟩ := Bool.and_eq_true_iff.mp digit
        have fromZero : 48 ≤ c.toNat := of_decide_eq_true fromZero
        have toNine : c.toNat ≤ 57 := of_decide_eq_true toNine
        omega
    · decide
  simp [isBlank, inRanges, blankRanges]
  omega

theorem withoutScheme_label {label rest : List Char}
    (plain : ∀ c ∈ label, isSubdomainChar c = true)
    (ends : ∀ c, rest.head? = some c → isSubdomainChar c = false ∧ c ≠ ':') :
    ∀ scheme ∈ [[], "http://".toList, "https://".toList],
      withoutScheme (scheme ++ (label ++ rest)) = label ++ rest := by
  have cut : ∀ own behind, (∀ c ∈ own, isSubdomainChar c = true) →
      ¬(own ++ ':' :: behind) <+: label ++ rest := by
    rintro own behind letters ⟨more, same⟩
    have colon : (label ++ rest).dropWhile isSubdomainChar = ':' :: (behind ++ more) := by
      rw [← same, List.append_assoc, List.dropWhile_append_of_pos letters]
      rfl
    rw [List.dropWhile_append_of_pos plain] at colon
    cases rest with
    | nil => cases colon
    | cons c rest =>
      obtain ⟨mark, other⟩ := ends c rfl
      rw [List.dropWhile_cons_of_neg (by simp [mark])] at colon
      exact other (List.cons.inj colon).1
  have secure : dropStart? "https://".toList (label ++ rest) = none :=
    if_neg fun start => cut "https".toList _ (List.all_eq_true.mp (by decide))
      (List.isPrefixOf_iff_prefix.mp start)
  have open' : dropStart? "http://".toList (label ++ rest) = none :=
    if_neg fun start => cut "http".toList _ (List.all_eq_true.mp (by decide))
      (List.isPrefixOf_iff_prefix.mp start)
  intro scheme known
  simp only [List.mem_cons, List.not_mem_nil, or_false] at known
  rcases known with rfl | rfl | rfl
  · rw [List.nil_append, withoutScheme, secure, open']
    rfl
  · rfl
  · rfl

namespace Spelling

variable (s : Spelling)

theorem trimmed_ending :
    s.ending.rdropWhile isBlank = List.replicate s.slashes '/' ∨
      ∃ rest, s.ending.rdropWhile isBlank = '.' :: rest := by
  rcases s.dotted with none | ⟨rest, dot⟩
  · left
    rw [ending, none, List.nil_append, rdropWhile_append_dropped s.blankAfter,
      List.rdropWhile_eq_self_iff]
    intro filled
    rw [List.getLast_replicate]
    decide
  · right
    rw [ending, dot, List.cons_append]
    exact ⟨_, rdropWhile_append_stop (by decide) [] _⟩

theorem trimmed_text :
    trimChars s.text.toList = s.scheme ++ (s.label ++ s.ending.rdropWhile isBlank) := by
  obtain ⟨own, last, parts⟩ : ∃ own last, s.label = own ++ [last] :=
    ⟨_, _, (List.dropLast_append_getLast s.named).symm⟩
  obtain ⟨first, others, front⟩ := List.exists_cons_of_ne_nil s.named
  have start : trimStartChars s.text.toList = s.scheme ++ (s.label ++ s.ending) := by
    rw [text, String.toList_ofList, trimStartChars, List.dropWhile_append_of_pos s.blankBefore]
    have known := s.webScheme
    simp only [List.mem_cons, List.not_mem_nil, or_false] at known
    rcases known with none | plain | secure
    · have letter := isSubdomainChar_notBlank (s.plain first (by simp [front]))
      rw [none, front, List.nil_append, List.cons_append,
        List.dropWhile_cons_of_neg (by simp [letter])]
    · rw [plain]
      rfl
    · rw [secure]
      rfl
  have stop := isSubdomainChar_notBlank (s.plain last (by simp [parts]))
  have cut := rdropWhile_append_stop stop (s.scheme ++ own) s.ending
  rw [trimChars, start, parts]
  simpa [trimEndChars, List.rdropWhile] using cut

theorem firstLabel_text : firstLabel s.text = s.label := by
  obtain ⟨own, last, parts⟩ : ∃ own last, s.label = own ++ [last] :=
    ⟨_, _, (List.dropLast_append_getLast s.named).symm⟩
  have ends : ∀ c, (s.ending.rdropWhile isBlank).head? = some c →
      isSubdomainChar c = false ∧ c ≠ ':' := by
    intro c first
    rcases s.trimmed_ending with slashes | ⟨rest, dot⟩
    · rw [slashes] at first
      rw [List.eq_of_mem_replicate (List.mem_of_head? first)]
      decide
    · rw [dot] at first
      cases first
      decide
  have stop : decide (last = '/') = false := by
    have letter := s.plain last (by simp [parts])
    simpa using isSubdomainChar_apart letter (by decide : isSubdomainChar '/' = false)
  have cut : (s.label ++ s.ending.rdropWhile isBlank).rdropWhile (· = '/') =
      s.label ++ (s.ending.rdropWhile isBlank).rdropWhile (· = '/') := by
    have behind := rdropWhile_append_stop (p := (· = '/')) stop own (s.ending.rdropWhile isBlank)
    rw [parts]
    simpa using behind
  have undotted : ∀ c ∈ s.label, decide (c ≠ '.') = true := by
    intro c own
    simpa using isSubdomainChar_apart (s.plain c own) (by decide : isSubdomainChar '.' = false)
  have rest : ((s.ending.rdropWhile isBlank).rdropWhile (· = '/')).takeWhile (· ≠ '.') = [] := by
    rcases s.trimmed_ending with slashes | ⟨rest, dot⟩
    · have none : (List.replicate s.slashes '/').rdropWhile (· = '/') = [] := by
        rw [List.rdropWhile_eq_nil_iff]
        intro c own
        rw [List.eq_of_mem_replicate own]
        rfl
      rw [slashes, none, List.takeWhile_nil]
    · have kept : ('.' :: rest).rdropWhile (· = '/') = '.' :: rest.rdropWhile (· = '/') :=
        rdropWhile_append_stop (by decide) [] rest
      rw [dot, kept, List.takeWhile_cons_of_neg (by decide)]
  rw [firstLabel, trimmed_text, withoutScheme_label s.plain ends s.scheme s.webScheme]
  change ((s.label ++ s.ending.rdropWhile isBlank).rdropWhile (· = '/')).takeWhile (· ≠ '.') =
    s.label
  rw [cut, List.takeWhile_append_of_pos undotted, rest, List.append_nil]

theorem subdomainOf_text : subdomainOf s.text = .ok s.subdomain := by
  have filled : s.label.isEmpty = false := by simp [s.named]
  have plain : s.label.all isSubdomainChar = true := List.all_eq_true.mpr s.plain
  simp only [subdomainOf, firstLabel_text, filled, plain, Bool.not_false, Bool.and_self,
    ↓reduceIte, subdomain]

end Spelling

theorem subdomainOf_eq_ok {domain subdomain : String} (read : subdomainOf domain = .ok subdomain) :
    firstLabel domain ≠ [] ∧ (∀ c ∈ firstLabel domain, isSubdomainChar c = true) ∧
      subdomain = String.ofList ((firstLabel domain).map Char.toLower) := by
  rw [subdomainOf] at read
  split at read
  · rename_i accepted
    simp only [Bool.and_eq_true, Bool.not_eq_true', List.isEmpty_eq_false_iff,
      List.all_eq_true] at accepted
    exact ⟨accepted.1, accepted.2, (Except.ok.inj read).symm⟩
  · cases read

def isSmallChar (c : Char) : Bool := c.isLower || c.isDigit || c = '-'

theorem isSubdomainChar_eq (c : Char) : isSubdomainChar c = (c.isUpper || isSmallChar c) := by
  change (c.isUpper || c.isLower || c.isDigit || decide (c = '-')) = _
  simp only [isSmallChar, Bool.or_assoc]

theorem isSmallChar_toLower {c : Char} (own : isSubdomainChar c = true) :
    isSmallChar c.toLower = true := by
  by_cases upper : c.val ≥ 'A'.val ∧ c.val ≤ 'Z'.val
  · rw [isSmallChar, isLower_toLower upper]
    rfl
  · have same : c.toLower = c := dif_neg upper
    have small : c.isUpper = false := decide_eq_false upper
    rwa [isSubdomainChar_eq, small, Bool.false_or, ← same] at own

theorem isSubdomainChar_of_isSmallChar {c : Char} (small : isSmallChar c = true) :
    isSubdomainChar c = true := by
  rw [isSubdomainChar_eq, small, Bool.or_true]

theorem isUpper_of_isSmallChar {c : Char} (small : isSmallChar c = true) : c.isUpper = false := by
  refine decide_eq_false fun upper => ?_
  obtain ⟨fromA, toZ⟩ : 65 ≤ c.toNat ∧ c.toNat ≤ 90 := upper
  simp only [isSmallChar, Bool.or_eq_true, decide_eq_true_eq] at small
  rcases small with (lower | digit) | rfl
  · have small : 97 ≤ c.toNat := of_decide_eq_true (Bool.and_eq_true_iff.mp lower).1
    omega
  · have toNine : c.toNat ≤ 57 := of_decide_eq_true (Bool.and_eq_true_iff.mp digit).2
    omega
  · exact absurd fromA (by decide)

theorem toLower_of_isSmallChar {c : Char} (small : isSmallChar c = true) : c.toLower = c :=
  dif_neg (of_decide_eq_false (isUpper_of_isSmallChar small))

theorem subdomainOf_small {domain subdomain : String} (read : subdomainOf domain = .ok subdomain) :
    subdomain ≠ "" ∧ ∀ c ∈ subdomain.toList, isSmallChar c = true := by
  obtain ⟨named, plain, rfl⟩ := subdomainOf_eq_ok read
  constructor
  · intro none
    have nothing := congrArg String.toList none
    rw [String.toList_ofList] at nothing
    exact named (List.map_eq_nil_iff.mp nothing)
  · intro c own
    rw [String.toList_ofList] at own
    obtain ⟨c, letter, rfl⟩ := List.mem_map.mp own
    exact isSmallChar_toLower (plain c letter)

theorem subdomainOf_subdomain {subdomain : String} (named : subdomain ≠ "")
    (small : ∀ c ∈ subdomain.toList, isSmallChar c = true) :
    subdomainOf subdomain = .ok subdomain := by
  let bare : Spelling :=
    { before := [], scheme := [], label := subdomain.toList, behind := [], slashes := 0, after := []
      blankBefore := nofun
      webScheme := List.mem_cons_self
      named := fun none => named (String.toList_eq_nil_iff.mp none)
      plain := fun c own => isSubdomainChar_of_isSmallChar (small c own)
      dotted := .inl rfl
      blankAfter := nofun }
  have text : bare.text = subdomain := by
    rw [← String.toList_inj, Spelling.text, String.toList_ofList]
    exact List.append_nil _
  have same : bare.subdomain = subdomain := by
    rw [← String.toList_inj, Spelling.subdomain, String.toList_ofList]
    calc subdomain.toList.map Char.toLower = subdomain.toList.map id :=
          List.map_congr_left fun c own => toLower_of_isSmallChar (small c own)
      _ = subdomain.toList := List.map_id _
  have read := bare.subdomainOf_text
  rwa [text, same] at read

end Desk
end IdentitySync
