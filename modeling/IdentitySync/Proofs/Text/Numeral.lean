import Mathlib.Algebra.Group.Nat.Defs
import Mathlib.Data.List.Induction
import IdentitySync.Text.Numeral

/-!
Numerals read back as the numbers they were written for, whatever the bound of the reader, as long
as the number is below it.
-/
namespace IdentitySync.Text

theorem digitChar_toNat {d : Nat} (h : d < 10) : (digitChar d).toNat = 48 + d := by
  have small : ∀ d : Fin 10, (digitChar d).toNat = 48 + d := by decide
  exact small ⟨d, h⟩

@[simp] theorem digitValue?_digitChar {d : Nat} (h : d < 10) :
    digitValue? (digitChar d) = some d := by
  simp only [digitValue?, digitChar_toNat h]
  rw [if_pos (by omega)]
  congr 1
  omega

theorem valueFrom?_append (acc : Nat) (xs ys : List Char) :
    valueFrom? acc (xs ++ ys) = (valueFrom? acc xs).bind fun n => valueFrom? n ys := by
  induction xs generalizing acc with
  | nil => rfl
  | cons c cs ih =>
    simp only [List.cons_append, valueFrom?]
    cases digitValue? c with
    | none => rfl
    | some d => exact ih _

theorem valueFrom?_digits (n : Nat) : valueFrom? 0 (digits n) = some n := by
  induction n using Nat.strongRecOn with
  | ind n ih =>
    rw [digits]
    split
    · rename_i small
      simp [valueFrom?, small]
    · rename_i large
      rw [valueFrom?_append, ih (n / 10) (by omega)]
      have low : n % 10 < 10 := Nat.mod_lt n (by omega)
      simp only [Option.bind_some, valueFrom?, digitValue?_digitChar low, Option.some.injEq]
      omega

theorem digitChar_eq {d : Nat} (h : d < 10) : digitChar d = Nat.digitChar d := by
  have small : ∀ d : Fin 10, digitChar d = Nat.digitChar d := by decide
  exact small ⟨d, h⟩

theorem digits_eq_toDigits (n : Nat) : digits n = Nat.toDigits 10 n := by
  induction n using Nat.strongRecOn with
  | ind n ih =>
    rw [digits, Nat.toDigits_eq_if (by decide)]
    split
    · rename_i small
      rw [digitChar_eq small]
    · rename_i large
      rw [ih (n / 10) (by omega), digitChar_eq (Nat.mod_lt n (by omega))]

theorem numeral_eq_toString (n : Nat) : numeral n = toString n := by
  rw [numeral, digits_eq_toDigits, Nat.toString_eq_repr, Nat.repr_eq_ofList_toDigits]

def digitList (n : Nat) : List Nat :=
  if n < 10 then [n] else digitList (n / 10) ++ [n % 10]
termination_by n
decreasing_by omega

theorem digits_eq_map (n : Nat) : digits n = (digitList n).map digitChar := by
  induction n using Nat.strongRecOn with
  | ind n ih =>
    rw [digits, digitList]
    split
    · rfl
    · rename_i large
      rw [ih (n / 10) (by omega), List.map_append]
      rfl

theorem digitList_small (n : Nat) : ∀ d ∈ digitList n, d < 10 := by
  induction n using Nat.strongRecOn with
  | ind n ih =>
    rw [digitList]
    split
    · rename_i small
      intro d hd
      rw [List.mem_singleton.mp hd]
      exact small
    · rename_i large
      intro d hd
      rcases List.mem_append.mp hd with hd | hd
      · exact ih (n / 10) (by omega) d hd
      · rw [List.mem_singleton.mp hd]
        exact Nat.mod_lt n (by omega)

theorem digitList_head (n : Nat) :
    ∃ d ds, digitList n = d :: ds ∧ (d = 0 → n = 0 ∧ ds = []) := by
  induction n using Nat.strongRecOn with
  | ind n ih =>
    rw [digitList]
    split
    · exact ⟨n, [], rfl, fun zero => ⟨zero, rfl⟩⟩
    · rename_i large
      obtain ⟨d, ds, eq, zero⟩ := ih (n / 10) (by omega)
      refine ⟨d, ds ++ [n % 10], by rw [eq]; rfl, fun h => ?_⟩
      have := (zero h).1
      omega

theorem digits_head (n : Nat) : ∃ d ds, digits n = digitChar d :: ds ∧ d < 10 := by
  obtain ⟨d, ds, eq, _⟩ := digitList_head n
  refine ⟨d, ds.map digitChar, by rw [digits_eq_map, eq, List.map_cons], ?_⟩
  exact digitList_small n d (by simp [eq])

theorem digits_ne_nil (n : Nat) : digits n ≠ [] := by
  obtain ⟨d, ds, eq, _⟩ := digits_head n
  simp [eq]

theorem digitChar_ne_plus {d : Nat} (h : d < 10) : digitChar d ≠ '+' := by
  intro same
  have value := digitValue?_digitChar h
  rw [same] at value
  cases value

theorem value?_digits (n : Nat) : value? (digits n) = some n := by
  have value := valueFrom?_digits n
  obtain ⟨d, ds, eq, _⟩ := digits_head n
  rw [eq] at value ⊢
  exact value

@[simp] theorem numeral_toList (n : Nat) : (numeral n).toList = digits n := by
  rw [numeral, String.toList_ofList]

theorem readBelow?_numeral {bound n : Nat} (h : n < bound) :
    readBelow? bound (numeral n) = some n := by
  have value := value?_digits n
  obtain ⟨d, ds, eq, small⟩ := digits_head n
  simp only [readBelow?, numeral_toList]
  rw [eq] at value ⊢
  have plain := digitChar_ne_plus small
  split
  · rename_i cs same
    exact absurd (List.cons.inj same).1 plain
  · simp [value, h]

@[simp] theorem readWord32?_numeral (n : UInt32) : readWord32? (numeral n.toNat) = some n := by
  simp [readWord32?, readBelow?_numeral n.toNat_lt]

@[simp] theorem readWord64?_numeral (n : UInt64) : readWord64? (numeral n.toNat) = some n := by
  simp [readWord64?, readBelow?_numeral n.toNat_lt]

@[simp] theorem numeral_ne_empty (n : Nat) : numeral n ≠ "" := by
  intro same
  have list := congrArg String.toList same
  rw [numeral_toList] at list
  exact digits_ne_nil n list

theorem isDigit_digitChar {d : Nat} (h : d < 10) : isDigit (digitChar d) = true := by
  rw [isDigit, digitValue?_digitChar h]
  rfl

theorem isDigit_range {c : Char} (h : isDigit c = true) : 48 ≤ c.toNat ∧ c.toNat ≤ 57 := by
  rw [isDigit, digitValue?] at h
  split at h
  · assumption
  · cases h

theorem isDigit_of_mem_digits {n : Nat} {c : Char} (h : c ∈ digits n) : isDigit c = true := by
  rw [digits_eq_map] at h
  obtain ⟨d, hd, rfl⟩ := List.mem_map.mp h
  exact isDigit_digitChar (digitList_small n d hd)

theorem digits_length {n w : Nat} (h : n < 10 ^ (w + 1)) : (digits n).length ≤ w + 1 := by
  induction w generalizing n with
  | zero =>
    rw [digits, if_pos (by simpa using h)]
    exact Nat.le_refl 1
  | succ w ih =>
    rw [digits]
    split
    · simp
    · have shorter := ih (n := n / 10) (by
        rw [Nat.div_lt_iff_lt_mul (by omega)]
        exact h)
      rw [List.length_append, List.length_singleton]
      omega

theorem isDigit_of_mem_zeros {zeros n : Nat} {c : Char}
    (own : c ∈ List.replicate zeros '0' ++ digits n) : isDigit c = true := by
  rcases List.mem_append.mp own with zero | digit
  · rw [List.eq_of_mem_replicate zero]
    decide
  · exact isDigit_of_mem_digits digit

theorem isDigit_of_mem_padded {w n : Nat} {c : Char} (h : c ∈ padded w n) : isDigit c = true :=
  isDigit_of_mem_zeros h

theorem padded_length {w n : Nat} (h : n < 10 ^ (w + 1)) : (padded (w + 1) n).length = w + 1 := by
  have room := digits_length h
  rw [padded, List.length_append, List.length_replicate]
  omega

theorem valueFrom?_zeros (k : Nat) (cs : List Char) :
    valueFrom? 0 (List.replicate k '0' ++ cs) = valueFrom? 0 cs := by
  induction k with
  | zero => rfl
  | succ k ih => exact ih

theorem padded_ne_nil (w n : Nat) : padded w n ≠ [] :=
  List.append_ne_nil_of_right_ne_nil _ (digits_ne_nil n)

theorem digitValue?_eq_some {c : Char} {d : Nat} (value : digitValue? c = some d) :
    d < 10 ∧ c = digitChar d := by
  rw [digitValue?] at value
  split at value
  · rename_i range
    cases value
    refine ⟨by omega, ?_⟩
    rw [digitChar, Nat.add_sub_cancel' range.1, Char.ofNat_toNat]
  · cases value

/-- What is read as a number is its digits behind any number of zeros. -/
theorem value?_eq_some_iff {cs : List Char} {n : Nat} :
    value? cs = some n ↔ ∃ zeros, cs = List.replicate zeros '0' ++ digits n := by
  constructor
  · intro read
    have filled : cs ≠ [] := by
      rintro rfl
      cases read
    have value : valueFrom? 0 cs = some n := by
      cases cs with
      | nil => cases read
      | cons c cs => exact read
    clear read
    induction cs using List.reverseRecOn generalizing n with
    | nil => exact absurd rfl filled
    | append_singleton cs c ih =>
      obtain ⟨m, lead, last⟩ := Option.bind_eq_some_iff.mp ((valueFrom?_append 0 cs [c]) ▸ value)
      obtain ⟨d, digit, sum⟩ := Option.bind_eq_some_iff.mp last
      obtain ⟨small, rfl⟩ := digitValue?_eq_some digit
      have sum : m * 10 + d = n := Option.some.inj sum
      have unrolled : digits n = if n < 10 then [digitChar n] else digits (n / 10) ++
          [digitChar (n % 10)] := by rw [digits]
      by_cases none : cs = []
      · subst none
        cases lead
        refine ⟨0, ?_⟩
        rw [unrolled, if_pos (by omega), ← sum, Nat.zero_mul, Nat.zero_add]
        rfl
      · obtain ⟨zeros, rfl⟩ := ih none lead
        by_cases zero : m = 0
        · refine ⟨zeros + 1, ?_⟩
          have nothing : digits m = ['0'] := by
            rw [zero, digits]
            rfl
          rw [unrolled, if_pos (by omega), nothing, ← List.replicate_succ',
            show n = d by omega]
        · refine ⟨zeros, ?_⟩
          rw [unrolled, if_neg (by omega), ← List.append_assoc, show n / 10 = m by omega,
            show n % 10 = d by omega]
  · rintro ⟨zeros, rfl⟩
    have value : valueFrom? 0 (List.replicate zeros '0' ++ digits n) = some n := by
      rw [valueFrom?_zeros, valueFrom?_digits]
    cases eq : List.replicate zeros '0' ++ digits n with
    | nil => exact absurd (List.append_eq_nil_iff.mp eq).2 (digits_ne_nil n)
    | cons c cs =>
      rw [eq] at value
      exact value

theorem value?_padded (w n : Nat) : value? (padded w n) = some n :=
  value?_eq_some_iff.mpr ⟨_, rfl⟩

/-- A number as readers take it: with one plus sign or none and any number of leading zeros. -/
def IsNumeral (n : Nat) (cs : List Char) : Prop :=
  ∃ sign ∈ [[], ['+']], ∃ zeros, cs = sign ++ (List.replicate zeros '0' ++ digits n)

theorem readBelow?_eq_some_iff {bound n : Nat} {s : String} :
    readBelow? bound s = some n ↔ n < bound ∧ IsNumeral n s.toList := by
  have limited : ∀ cs, (value? cs).bind (fun n => if n < bound then some n else none) = some n ↔
      n < bound ∧ value? cs = some n := by
    intro cs
    cases value? cs with
    | none => simp
    | some m =>
      simp only [Option.bind_some, Option.some.injEq, Option.ite_none_right_eq_some]
      constructor
      · rintro ⟨below, rfl⟩
        exact ⟨below, rfl⟩
      · rintro ⟨below, rfl⟩
        exact ⟨below, rfl⟩
  have unsigned : ∀ zeros cs, List.replicate zeros '0' ++ digits n ≠ '+' :: cs := by
    intro zeros cs same
    obtain ⟨d, ds, front, small⟩ := digits_head n
    cases zeros with
    | zero =>
      rw [front] at same
      exact digitChar_ne_plus small (List.cons.inj same).1
    | succ zeros => cases same
  rw [readBelow?]
  split
  · rename_i cs signed
    rw [limited, value?_eq_some_iff, signed, IsNumeral]
    refine and_congr_right fun _ => ⟨?_, ?_⟩
    · rintro ⟨zeros, rfl⟩
      exact ⟨['+'], by simp, zeros, rfl⟩
    · rintro ⟨sign, known, zeros, same⟩
      simp only [List.mem_cons, List.not_mem_nil, or_false] at known
      rcases known with rfl | rfl
      · exact absurd same.symm (unsigned zeros cs)
      · exact ⟨zeros, (List.cons.inj same).2⟩
  · rename_i plain
    rw [limited, value?_eq_some_iff, IsNumeral]
    refine and_congr_right fun _ => ⟨?_, ?_⟩
    · rintro ⟨zeros, same⟩
      exact ⟨[], by simp, zeros, same⟩
    · rintro ⟨sign, known, zeros, same⟩
      simp only [List.mem_cons, List.not_mem_nil, or_false] at known
      rcases known with rfl | rfl
      · exact ⟨zeros, same⟩
      · exact absurd same (plain _)

theorem readWord64?_eq_some_iff {n : UInt64} {s : String} :
    readWord64? s = some n ↔ IsNumeral n.toNat s.toList := by
  rw [readWord64?, Option.map_eq_some_iff]
  constructor
  · rintro ⟨m, read, rfl⟩
    obtain ⟨below, numeral⟩ := readBelow?_eq_some_iff.mp read
    rwa [UInt64.toNat_ofNat_of_lt' below]
  · intro numeral
    exact ⟨n.toNat, readBelow?_eq_some_iff.mpr ⟨n.toNat_lt, numeral⟩, UInt64.ofNat_toNat⟩

end IdentitySync.Text
