import IdentitySync.Proofs.Text.Blank
import IdentitySync.Time.Rfc3339

/-!
Every moment is read back from its text, whatever its year, its fraction and whether it lies in a
leap second. The reader's leniency plays no part: fields are written at full width, so each ends
where its digits end.
-/
namespace IdentitySync.Time
open Text

theorem ok_bind (a : α) (f : α → Read β) : (.ok a >>= f) = f a := rfl

theorem trimStart_mark {c : Char} (h : isBlank c = false) (rest : List Char) :
    trimStartChars (c :: rest) = c :: rest := by
  simp [trimStartChars, h]

theorem readMark_own {mark : Char} (h : isBlank mark = false) (rest : List Char) :
    readMark mark (mark :: rest) = .ok rest := by
  simp [readMark, trimStart_mark h]

theorem padded_head (w n : Nat) (rest : List Char) :
    ∃ c cs, padded w n ++ rest = c :: cs ∧ isDigit c = true := by
  cases eq : padded w n with
  | nil => exact absurd eq (padded_ne_nil w n)
  | cons c cs =>
    have own : c ∈ padded w n := by simp [eq]
    exact ⟨c, cs ++ rest, rfl, isDigit_of_mem_padded own⟩

theorem trimStart_padded (w n : Nat) (rest : List Char) :
    trimStartChars (padded w n ++ rest) = padded w n ++ rest := by
  obtain ⟨c, cs, eq, digit⟩ := padded_head w n rest
  rw [eq]
  exact trimStart_mark (not_blank_of_isDigit digit) cs

theorem readNumber_digits {ds rest : List Char} {most n : Nat} (digit : ∀ c ∈ ds, isDigit c = true)
    (value : value? ds = some n)
    (ends : most = ds.length ∨
      (ds.length ≤ most ∧ ∀ c, rest.head? = some c → isDigit c = false)) :
    readNumber most (ds ++ rest) = .ok (n, rest) := by
  have stop : (rest.take (most - ds.length)).takeWhile isDigit = [] := by
    rcases ends with rfl | ⟨_, other⟩
    · simp
    · cases rest with
      | nil => simp
      | cons c rest =>
        cases most - ds.length with
        | zero => rfl
        | succ k => simp [other c rfl]
  have taken : ((ds ++ rest).take most).takeWhile isDigit = ds := by
    rw [List.take_append, List.take_of_length_le (by omega),
      List.takeWhile_append_of_pos digit, stop, List.append_nil]
  cases ds with
  | nil => cases value
  | cons c cs =>
    simp only [List.cons_append] at taken ⊢
    simp only [readNumber, taken, value]
    simp

theorem readNumber_padded {w n : Nat} (fits : n < 10 ^ (w + 1)) (rest : List Char) :
    readNumber (w + 1) (padded (w + 1) n ++ rest) = .ok (n, rest) :=
  readNumber_digits (fun _ hc => isDigit_of_mem_padded hc) (value?_padded _ n)
    (.inl (padded_length fits).symm)

theorem readField_padded {least greatest n : Nat} (range : least ≤ n ∧ n ≤ greatest)
    (small : n < 100) (rest : List Char) :
    readField least greatest (padded 2 n ++ rest) = .ok (n, rest) := by
  rw [readField, trimStart_padded, readNumber_padded small]
  exact if_pos range

theorem readYear_plain {n : Nat} (small : n < 10000) (rest : List Char) :
    readYear (padded 4 n ++ '-' :: rest) = .ok ((n : Int), '-' :: rest) := by
  have read := readNumber_padded (w := 3) small ('-' :: rest)
  obtain ⟨c, cs, eq, digit⟩ := padded_head 4 n ('-' :: rest)
  rw [readYear, trimStart_padded]
  rw [eq] at read ⊢
  split
  · rename_i same
    rw [(List.cons.inj same).1] at digit
    cases digit
  · rename_i same
    rw [(List.cons.inj same).1] at digit
    cases digit
  · rw [read]
    exact if_pos (by unfold leastYear greatestYear; omega)

theorem readNumber_signed (n : Nat) (rest : List Char) :
    readNumber (padded 4 n ++ '-' :: rest).length (padded 4 n ++ '-' :: rest) =
      .ok (n, '-' :: rest) := by
  refine readNumber_digits (fun _ hc => isDigit_of_mem_padded hc) (value?_padded 4 n)
    (.inr ⟨?_, ?_⟩)
  · rw [List.length_append]
    exact Nat.le_add_right _ _
  · intro c head
    cases head
    rfl

theorem readYear_written {y : Int} (range : firstYear ≤ y ∧ y ≤ lastYear) (rest : List Char) :
    readYear (Timestamp.writeYear y ++ '-' :: rest) = .ok (y, '-' :: rest) := by
  have within : leastYear ≤ y ∧ y ≤ greatestYear := by
    unfold firstYear lastYear at range
    unfold leastYear greatestYear
    omega
  rw [Timestamp.writeYear]
  split
  · rename_i plain
    rw [readYear_plain (by omega), Int.toNat_of_nonneg plain.1]
  · by_cases negative : y < 0
    · rw [if_pos negative, List.cons_append, readYear, trimStart_mark (by decide)]
      simp only [readNumber_signed]
      rw [show (-(y.natAbs : Int)) = y by omega]
      exact if_pos within
    · rw [if_neg negative, List.cons_append, readYear, trimStart_mark (by decide)]
      simp only [readNumber_signed]
      rw [show ((y.natAbs : Nat) : Int) = y by omega]
      exact if_pos within

theorem readDate_written (d : Date) (rest : List Char) :
    readDate (Timestamp.writeYear d.year ++ '-' :: padded 2 d.month ++ '-' :: padded 2 d.day ++
      rest) = .ok ((d.year, d.month, d.day), rest) := by
  have days : d.day ≤ 31 := by
    have last := d.day_range.2
    unfold daysIn at last
    split at last
    · split at last <;> omega
    · split at last <;> omega
  have month := readField_padded d.month_range (by have := d.month_range; omega)
    ('-' :: padded 2 d.day ++ rest)
  have day := readField_padded ⟨d.day_range.1, days⟩ (by omega) rest
  have dash : isBlank '-' = false := by decide
  simp only [List.append_assoc, List.cons_append] at month day ⊢
  simp only [readDate, readYear_written d.year_range, readMark_own dash, month, day, ok_bind]

theorem dropWhile_other {rest : List Char} (h : ∀ c, rest.head? = some c → isDigit c = false) :
    rest.dropWhile isDigit = rest := by
  cases rest with
  | nil => rfl
  | cons c rest => simp [h c rfl]

theorem readFraction_padded {w n : Nat} (width : w < 9) (fits : n < 10 ^ (w + 1))
    {rest : List Char} (other : ∀ c, rest.head? = some c → isDigit c = false) :
    readFraction ('.' :: padded (w + 1) n ++ rest) = .ok (n * Nat.pow 10 (8 - w), rest) := by
  have length := padded_length fits
  have read : readNumber 9 (padded (w + 1) n ++ rest) = .ok (n, rest) :=
    readNumber_digits (fun _ hc => isDigit_of_mem_padded hc) (value?_padded _ n)
      (.inr ⟨by omega, other⟩)
  have places : 9 - ((padded (w + 1) n ++ rest).length - rest.length) = 8 - w := by
    rw [List.length_append]
    omega
  simp only [readFraction, List.cons_append, read, places, dropWhile_other other]

theorem readFraction_written {n : Nat} (small : n < billion) {rest : List Char}
    (other : ∀ c, rest.head? = some c → isDigit c = false) (point : rest.head? ≠ some '.') :
    readFraction (Timestamp.writeFraction n ++ rest) = .ok (n, rest) := by
  unfold billion at small
  rw [Timestamp.writeFraction]
  split
  · rename_i zero
    rw [zero, List.nil_append, readFraction]
    · rintro cs rfl
      exact point rfl
  · split
    · rename_i whole
      have places : Nat.pow 10 (8 - 2) = 1000000 := rfl
      rw [readFraction_padded (w := 2) (by omega) (by omega) other, places,
        Nat.div_mul_cancel (Nat.dvd_of_mod_eq_zero whole)]
    · split
      · rename_i whole
        have places : Nat.pow 10 (8 - 5) = 1000 := rfl
        rw [readFraction_padded (w := 5) (by omega) (by omega) other, places,
          Nat.div_mul_cancel (Nat.dvd_of_mod_eq_zero whole)]
      · have places : Nat.pow 10 (8 - 8) = 1 := rfl
        rw [readFraction_padded (w := 8) (by omega) small other, places, Nat.mul_one]

theorem readTime_written {h m s n : Nat} (hour : h ≤ 23) (minute : m ≤ 59) (second : s ≤ 60)
    (nano : n < billion) :
    readTime (padded 2 h ++ ':' :: padded 2 m ++ ':' :: padded 2 s ++ Timestamp.writeFraction n ++
      ['Z']) = .ok ((h, m, s, n), ['Z']) := by
  have hours := fun rest => readField_padded ⟨Nat.zero_le h, hour⟩ (by omega) rest
  have minutes := fun rest => readField_padded ⟨Nat.zero_le m, minute⟩ (by omega) rest
  have seconds := fun rest => readField_padded ⟨Nat.zero_le s, second⟩ (by omega) rest
  have fraction : readFraction (Timestamp.writeFraction n ++ ['Z']) = .ok (n, ['Z']) := by
    refine readFraction_written nano (fun c head => ?_) (by simp)
    cases head
    rfl
  have colon : isBlank ':' = false := by decide
  have rest : trimStartChars ['Z'] = ['Z'] := trimStart_mark (by decide) []
  simp only [List.append_assoc, List.cons_append, readTime, hours, minutes, seconds,
    readMark_own colon, fraction, rest, ok_bind]

theorem Date.of?_own (d : Date) : Date.of? d.year d.month d.day = some d := by
  simp only [Date.of?, d.year_range, d.month_range, d.day_range, and_self, ↓reduceDIte]

namespace Timestamp

theorem of?_own (t : Timestamp) : of? t.date t.second t.nano = some t := by
  simp only [of?, t.second_range, t.nano_range, ↓reduceDIte]

theorem ofLocal?_own (t : Timestamp) : ofLocal? t.date t.second t.nano 0 = some t := by
  have day := t.second_range
  simp only [ofLocal?, Int.sub_zero]
  rw [if_neg (by omega), if_neg (by omega), Int.toNat_natCast, of?_own]

/-- The fields of a time of day; the second is 60 within a leap second. -/
theorem readChars_fields (t : Timestamp) {s n : Nat} (second : s ≤ 60) (nano : n < billion)
    (own : t.second / 3600 * 3600 + t.second / 60 % 60 * 60 + (if s = 60 then 59 else s) = t.second)
    (fraction : (if s = 60 then n + billion else n) = t.nano) :
    readChars (writeYear t.date.year ++ '-' :: padded 2 t.date.month ++
      '-' :: padded 2 t.date.day ++ 'T' :: padded 2 (t.second / 3600) ++
      ':' :: padded 2 (t.second / 60 % 60) ++ ':' :: padded 2 s ++ writeFraction n ++ ['Z']) =
        .ok t := by
  have day := t.second_range
  unfold secondsPerDay at day
  have date := fun rest => readDate_written t.date rest
  have time := readTime_written (h := t.second / 3600) (m := t.second / 60 % 60) (by omega)
    (by omega) second nano
  simp only [List.append_assoc, List.cons_append] at date time ⊢
  have zone : readOffset ['Z'] = .ok (0, []) := rfl
  simp only [readChars, date, readSeparator, time, zone, ok_bind, or_true, true_or,
    ↓reduceIte, Date.of?_own, own, fraction, ofLocal?_own]
  rfl

theorem read_text (t : Timestamp) : read t.text = .ok t := by
  have day := t.second_range
  have nano := t.nano_range
  rw [read, text, String.toList_ofList, writeChars]
  by_cases leap : billion ≤ t.nano
  · obtain ⟨bound, last⟩ : t.nano < 2 * billion ∧ t.second % 60 = 59 := by omega
    have sixty : t.second % 60 + 1 = 60 := by omega
    simp only [leap, ↓reduceIte, sixty]
    refine readChars_fields t (Nat.le_refl 60) (by omega) ?_ ?_
    · rw [if_pos rfl]
      omega
    · rw [if_pos rfl]
      omega
  · have short : ¬t.second % 60 = 60 := by omega
    simp only [leap, ↓reduceIte, Nat.add_zero]
    refine readChars_fields t (by omega) (by omega) ?_ (if_neg short)
    rw [if_neg short]
    omega

end Timestamp

end IdentitySync.Time
