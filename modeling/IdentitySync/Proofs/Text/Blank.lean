import Mathlib.Data.List.DropRight
import IdentitySync.Proofs.Text.Numeral
import IdentitySync.Text.Blank

/-!
Texts without white space around them. Trimming gives such a text and keeps one as it is. Two of
them with a space in between are such a text again, unless one of the two is empty: then trimming
leaves the other.
-/
namespace IdentitySync.Text

theorem not_blank_of_isDigit {c : Char} (h : isDigit c = true) : isBlank c = false := by
  have range := isDigit_range h
  simp [isBlank, inRanges, blankRanges]
  omega

structure Trimmed (cs : List Char) : Prop where
  start : ∀ c, cs.head? = some c → isBlank c = false
  stop : ∀ c, cs.getLast? = some c → isBlank c = false

variable {x y : List Char}

theorem trimmed_trimChars (cs : List Char) : Trimmed (trimChars cs) := by
  constructor
  · intro c first
    -- What is dropped at the end leaves the first character in its place.
    obtain ⟨rest, parts⟩ := List.rdropWhile_prefix isBlank (l := trimStartChars cs)
    have own : (trimStartChars cs).head? = some c := by
      rw [← parts, List.head?_append]
      exact Option.or_eq_some_iff.mpr (.inl first)
    have kept := List.head?_dropWhile_not isBlank cs
    rw [trimStartChars] at own
    rw [own] at kept
    exact kept
  · intro c last
    have some : trimChars cs ≠ [] := by
      intro none
      rw [none] at last
      cases last
    have kept := List.rdropWhile_last_not isBlank (trimStartChars cs) some
    rw [List.getLast?_eq_some_getLast some] at last
    cases last
    exact Bool.not_eq_true _ ▸ kept

theorem Trimmed.endKept (h : Trimmed x) : trimEndChars x = x := by
  apply List.rdropWhile_eq_self_iff.mpr
  intro filled
  rw [h.stop _ (List.getLast?_eq_some_getLast filled)]
  exact Bool.false_ne_true

theorem Trimmed.kept (h : Trimmed x) : trimChars x = x := by
  have start : trimStartChars x = x := by
    apply List.dropWhile_eq_self_iff.mpr
    intro filled
    rw [h.start x[0] (by rw [List.head?_eq_getElem?, List.getElem?_eq_getElem filled])]
    exact Bool.false_ne_true
  rw [trimChars, start, h.endKept]

theorem trimmed_iff : Trimmed x ↔ trimChars x = x :=
  ⟨Trimmed.kept, fun kept => kept ▸ trimmed_trimChars x⟩

theorem trimmed_of_noBlank (h : ∀ c ∈ x, isBlank c = false) : Trimmed x :=
  ⟨fun c first => h c (List.mem_of_head? first), fun c last => h c (List.mem_of_getLast? last)⟩

theorem Trimmed.joined (hx : Trimmed x) (hy : Trimmed y) (filled : x ≠ []) (filled' : y ≠ []) :
    Trimmed (x ++ ' ' :: y) := by
  constructor
  · intro c first
    apply hx.start
    rwa [List.head?_append_of_ne_nil x filled] at first
  · intro c last
    apply hy.stop
    rw [List.getLast?_append_of_ne_nil _ (List.cons_ne_nil _ _)] at last
    rwa [← List.singleton_append, List.getLast?_append_of_ne_nil _ filled'] at last

theorem trimChars_parts (cs : List Char) :
    ∃ before after, (∀ c ∈ before, isBlank c = true) ∧ (∀ c ∈ after, isBlank c = true) ∧
      cs = before ++ (trimChars cs ++ after) := by
  refine ⟨cs.takeWhile isBlank, (trimStartChars cs).rtakeWhile isBlank,
    fun c own => List.mem_takeWhile_imp own, fun c own => List.mem_rtakeWhile_imp own, ?_⟩
  calc cs = cs.takeWhile isBlank ++ trimStartChars cs := List.takeWhile_append_dropWhile.symm
    _ = cs.takeWhile isBlank ++ (trimChars cs ++ (trimStartChars cs).rtakeWhile isBlank) :=
        congrArg _ List.rdropWhile_append_rtakeWhile.symm

theorem rdropWhile_append_stop {p : Char → Bool} {c : Char} (stop : p c = false)
    (x y : List Char) :
    (x ++ c :: y).rdropWhile p = x ++ c :: y.rdropWhile p := by
  induction y using List.reverseRecOn with
  | nil => exact List.rdropWhile_concat_neg p x c (by simp [stop])
  | append_singleton y d ih =>
    have shifted : x ++ c :: (y ++ [d]) = (x ++ c :: y) ++ [d] := by simp
    rw [shifted]
    by_cases drop : p d = true
    · rw [List.rdropWhile_concat_pos p _ d drop, List.rdropWhile_concat_pos p _ d drop, ih]
    · rw [List.rdropWhile_concat_neg p _ d drop, List.rdropWhile_concat_neg p _ d drop, shifted]

theorem rdropWhile_append_dropped {p : Char → Bool} (drop : ∀ c ∈ y, p c = true) :
    (x ++ y).rdropWhile p = x.rdropWhile p := by
  induction y using List.reverseRecOn with
  | nil => rw [List.append_nil]
  | append_singleton y d ih =>
    rw [← List.append_assoc, List.rdropWhile_concat_pos p _ d (drop d (by simp))]
    exact ih fun c own => drop c (List.mem_append_left _ own)

theorem trimChars_surrounded {before after : List Char} (h : Trimmed x) (filled : x ≠ [])
    (blankBefore : ∀ c ∈ before, isBlank c = true) (blankAfter : ∀ c ∈ after, isBlank c = true) :
    trimChars (before ++ (x ++ after)) = x := by
  obtain ⟨c, cs, rfl⟩ := List.exists_cons_of_ne_nil filled
  have start : trimStartChars (before ++ (c :: cs ++ after)) = c :: cs ++ after := by
    rw [trimStartChars, List.dropWhile_append_of_pos blankBefore, List.cons_append,
      List.dropWhile_cons_of_neg (by simp [h.start c rfl])]
  rw [trimChars, start]
  exact (rdropWhile_append_dropped blankAfter).trans h.endKept

theorem trimChars_joined (hx : Trimmed x) (hy : Trimmed y) :
    trimChars (x ++ ' ' :: y) = if x = [] then y else if y = [] then x else x ++ ' ' :: y := by
  have space : isBlank ' ' = true := by decide
  by_cases blank : x = []
  · rw [if_pos blank, blank, List.nil_append, trimChars, trimStartChars,
      List.dropWhile_cons_of_pos space]
    exact hy.kept
  · rw [if_neg blank]
    by_cases blank' : y = []
    · obtain ⟨c, cs, rfl⟩ := List.exists_cons_of_ne_nil blank
      have start : isBlank c = false := hx.start c rfl
      rw [if_pos blank', blank', trimChars, trimStartChars, List.cons_append,
        List.dropWhile_cons_of_neg (by simp [start]), ← List.cons_append]
      exact (List.rdropWhile_concat_pos isBlank (c :: cs) ' ' space).trans hx.endKept
    · rw [if_neg blank']
      exact (hx.joined hy blank blank').kept

@[simp] theorem trim_toList (s : String) : (trim s).toList = trimChars s.toList :=
  String.toList_ofList

@[simp] theorem trim_trim (s : String) : trim (trim s) = trim s := by
  rw [trim, trim_toList, (trimmed_trimChars _).kept, ← trim]

theorem trim_eq_self_iff (s : String) : trim s = s ↔ Trimmed s.toList := by
  rw [trimmed_iff, ← trim_toList, String.toList_inj]

theorem trim_joined (a b : String) :
    trim (trim a ++ " " ++ trim b) =
      if trim a = "" then trim b else if trim b = "" then trim a else trim a ++ " " ++ trim b := by
  have parts : (trim a ++ " " ++ trim b).toList = (trim a).toList ++ ' ' :: (trim b).toList := by
    simp
  have whole := trimChars_joined (trimmed_trimChars a.toList) (trimmed_trimChars b.toList)
  rw [← trim_toList, ← trim_toList, ← parts] at whole
  rw [← String.toList_inj, trim_toList, whole]
  simp only [String.toList_eq_nil_iff]
  split
  · rfl
  · split <;> rfl

@[simp] theorem trim_numeral (n : Nat) : trim (numeral n) = numeral n := by
  rw [trim_eq_self_iff, numeral_toList]
  exact trimmed_of_noBlank fun c own => not_blank_of_isDigit (isDigit_of_mem_digits own)

theorem nonBlank?_of_filled {s : String} (filled : trim s ≠ "") : nonBlank? s = some (trim s) := by
  rw [nonBlank?, if_neg filled]

theorem nonBlank?_getD (s : String) : (nonBlank? s).getD "" = trim s := by
  rw [nonBlank?]
  split
  · rename_i blank
    exact blank.symm
  · rfl

theorem nonBlank?_some {s t : String} (left : nonBlank? s = some t) : t ≠ "" ∧ trim t = t := by
  rw [nonBlank?] at left
  split at left
  · cases left
  · rename_i filled
    cases left
    exact ⟨filled, trim_trim s⟩

end IdentitySync.Text
