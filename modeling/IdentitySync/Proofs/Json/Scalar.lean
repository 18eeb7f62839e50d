import IdentitySync.Json.Reader
import IdentitySync.Json.Writer
import IdentitySync.Proofs.Text.Numeral

/-!
Reading written strings and numbers. What stands for a character in a string is read as the
character, and the digits of a number that fits a word are taken in whole.
-/
namespace IdentitySync
open Text

def Number.Whole : Number → Prop
  | .natural n => n < UInt64.size
  | .negative n => 0 < n ∧ n ≤ Nat.pow 2 63
  | .real _ => False

namespace Json

def Quote.plain (done : List Char) (isKey : Bool) : Quote := ⟨done, true, none, .none, isKey⟩

theorem hexValue?_hexDigitChar : ∀ d, d < 16 → hexValue? (hexDigitChar d) = some d := by decide

theorem quote_step (st : List Frame) {q q' : Quote} {c : Char} (h : q.next c = .more q') :
    Machine.step ⟨st, .quote q⟩ c = ⟨st, .quote q'⟩ := by
  simp only [Machine.step, Machine.quoteStep, h]

theorem unit_plain (c : Char) (small : c.toNat < 32) (done : List Char) (isKey : Bool)
    (e : Escape) : { Quote.plain done isKey with escape := e }.addUnit c.toNat =
      .plain (c :: done) isKey := by
  have high : ¬(0xD800 ≤ c.toNat ∧ c.toNat ≤ 0xDBFF) := by omega
  have low : ¬(0xDC00 ≤ c.toNat ∧ c.toNat ≤ 0xDFFF) := by omega
  simp only [Quote.addUnit, Quote.plain, high, low, ↓reduceIte, Quote.add, Char.ofNat_toNat]
  rfl

theorem read_control (st : List Frame) (done : List Char) (isKey : Bool) (c : Char)
    (small : c.toNat < 32) :
    ['\\', 'u', '0', '0', hexDigitChar (c.toNat / 16), hexDigitChar (c.toNat % 16)].foldl
      Machine.step ⟨st, .quote (.plain done isKey)⟩ = ⟨st, .quote (.plain (c :: done) isKey)⟩ := by
  have high := hexValue?_hexDigitChar (c.toNat / 16) (by omega)
  have low := hexValue?_hexDigitChar (c.toNat % 16) (by omega)
  have whole : c.toNat / 16 * 16 + c.toNat % 16 = c.toNat := by omega
  have opened : ['\\', 'u', '0', '0'].foldl Machine.step ⟨st, .quote (.plain done isKey)⟩ =
      ⟨st, .quote { Quote.plain done isKey with escape := .hex 2 0 }⟩ := rfl
  have third : Machine.step ⟨st, .quote { Quote.plain done isKey with escape := .hex 2 0 }⟩
      (hexDigitChar (c.toNat / 16)) =
      ⟨st, .quote { Quote.plain done isKey with escape := .hex 3 (c.toNat / 16) }⟩ := by
    apply quote_step
    simp [Quote.next, high]
  have fourth : Machine.step
      ⟨st, .quote { Quote.plain done isKey with escape := .hex 3 (c.toNat / 16) }⟩
      (hexDigitChar (c.toNat % 16)) = ⟨st, .quote (.plain (c :: done) isKey)⟩ := by
    apply quote_step
    simp only [Quote.next, low, ↓reduceIte, whole]
    rw [unit_plain c small]
  rw [show ∀ a b : Char, ['\\', 'u', '0', '0', a, b] = ['\\', 'u', '0', '0'] ++ [a, b] from
    fun _ _ => rfl, List.foldl_append, opened]
  simp only [List.foldl_cons, List.foldl_nil, third, fourth]

theorem read_escaped (st : List Frame) (done : List Char) (isKey : Bool) (c : Char) :
    (escaped c).foldl Machine.step ⟨st, .quote (.plain done isKey)⟩ =
      ⟨st, .quote (.plain (c :: done) isKey)⟩ := by
  unfold escaped
  split
  · subst c; rfl
  split
  · subst c; rfl
  split
  · rename_i code
    have same : c = Char.ofNat 8 := by rw [← code, Char.ofNat_toNat]
    subst c
    rfl
  split
  · rename_i code
    have same : c = Char.ofNat 12 := by rw [← code, Char.ofNat_toNat]
    subst c
    rfl
  split
  · subst c; rfl
  split
  · subst c; rfl
  split
  · subst c; rfl
  split
  · rename_i small
    exact read_control st done isKey c small
  · rename_i quotation backslash _ _ _ _ _ large
    apply quote_step
    simp only [Quote.next, Quote.plain, quotation, backslash, large, ↓reduceIte]
    rfl
theorem read_characters (st : List Frame) (isKey : Bool) (cs done : List Char) :
    (cs.flatMap escaped).foldl Machine.step ⟨st, .quote (.plain done isKey)⟩ =
      ⟨st, .quote (.plain (cs.reverse ++ done) isKey)⟩ := by
  induction cs generalizing done with
  | nil => rfl
  | cons c cs ih =>
    rw [List.flatMap_cons, List.foldl_append, read_escaped, ih, List.reverse_cons,
      List.append_assoc]
    rfl

theorem read_quoted (st : List Frame) (isKey : Bool) (s : String) :
    (s.toList.flatMap escaped ++ ['"']).foldl Machine.step ⟨st, .quote (.begin isKey)⟩ =
      Machine.endQuote ⟨st, .quote (.plain s.toList.reverse isKey)⟩
        (.plain s.toList.reverse isKey) := by
  have run := read_characters st isKey s.toList []
  rw [List.append_nil] at run
  rw [List.foldl_append]
  exact congrArg (fun m => Machine.step m '"') run

theorem plain_text (s : String) (isKey : Bool) :
    (Quote.plain s.toList.reverse isKey).text? = some s := by
  simp [Quote.text?, Quote.plain]

theorem read_string (st : List Frame) (s : String) :
    (stringChars s).foldl Machine.step ⟨st, .value⟩ = Machine.deliver (.string s) st := by
  refine (read_quoted st false s).trans ?_
  simp only [Machine.endQuote, plain_text]
  rfl

theorem read_key (st : List Frame) (done : List (Option String × Document)) (mode : Mode)
    (ready : mode = .firstKey ∨ mode = .key) (k : String) :
    (stringChars k).foldl Machine.step ⟨.record done :: st, mode⟩ =
      ⟨.member done (some k) :: st, .colon⟩ := by
  have opened : Machine.step ⟨.record done :: st, mode⟩ '"' =
      ⟨.record done :: st, .quote (.begin true)⟩ := by
    rcases ready with rfl | rfl <;> rfl
  rw [stringChars, List.foldl_cons, opened]
  refine (read_quoted _ true k).trans ?_
  simp only [Machine.endQuote, plain_text]
  rfl

theorem absorb_append (acc a : Nat) (xs ys : List Nat)
    (h : NumberText.absorb acc xs = (a, [])) :
    NumberText.absorb acc (xs ++ ys) = NumberText.absorb a ys := by
  induction xs generalizing acc with
  | nil =>
    simp only [NumberText.absorb, Prod.mk.injEq, and_true] at h
    rw [h, List.nil_append]
  | cons d ds ih =>
    simp only [List.cons_append, NumberText.absorb] at h ⊢
    split at h
    · simp at h
    · rename_i fits
      rw [if_neg fits]
      exact ih _ h

theorem absorb_one {acc d n : Nat} (eq : acc * 10 + d = n) (fits : n < UInt64.size) :
    NumberText.absorb acc [d] = (n, []) := by
  have room : ¬NumberText.greatestWord < acc * 10 + d := by
    unfold NumberText.greatestWord
    omega
  rw [NumberText.absorb, if_neg room, eq]
  rfl

theorem absorb_digitList (n : Nat) (fits : n < UInt64.size) :
    NumberText.absorb 0 (digitList n) = (n, []) := by
  induction n using Nat.strongRecOn with
  | ind n ih =>
    rw [digitList]
    split
    · exact absorb_one (by omega) fits
    · rename_i large
      rw [absorb_append 0 (n / 10) _ _ (ih (n / 10) (by omega) (by omega))]
      exact absorb_one (by omega) fits

def NumberScan.ofDigits (negative : Bool) (read : List Nat) (place : Place) : NumberScan :=
  ⟨place, negative, read, none, none, none⟩

theorem read_digits (st : List Frame) (negative : Bool) (ds read : List Nat)
    (small : ∀ d ∈ ds, d < 10) :
    (ds.map digitChar).foldl Machine.step ⟨st, .number (.ofDigits negative read .whole)⟩ =
      ⟨st, .number (.ofDigits negative (ds.reverse ++ read) .whole)⟩ := by
  induction ds generalizing read with
  | nil => rfl
  | cons d ds ih =>
    have first : Machine.step ⟨st, .number (.ofDigits negative read .whole)⟩ (digitChar d) =
        ⟨st, .number (.ofDigits negative (d :: read) .whole)⟩ := by
      simp only [Machine.step, Machine.numberStep, NumberScan.next,
        digitValue?_digitChar (small d List.mem_cons_self)]
      rfl
    rw [List.map_cons, List.foldl_cons, first,
      ih (d :: read) fun x hx => small x (List.mem_cons_of_mem d hx), List.reverse_cons,
      List.append_assoc]
    rfl

theorem digitChar_starts : ∀ d, d < 10 → Machine.isSpace (digitChar d) = false ∧
    digitChar d ∉ ['"', '[', '\x7b', 'n', 't', 'f', '-'] := by decide

theorem begin_digit (st : List Frame) {d : Nat} (small : d < 10) :
    Machine.step ⟨st, .value⟩ (digitChar d) =
      ⟨st, .number (.ofDigits false [d] (if d = 0 then .zero else .whole))⟩ := by
  obtain ⟨space, other⟩ := digitChar_starts d small
  simp only [List.mem_cons, List.not_mem_nil, or_false, not_or] at other
  obtain ⟨quotation, list, record, null, yes, no, minus⟩ := other
  simp only [Machine.step, Machine.plainStep, space, Bool.false_eq_true, Machine.beginValue,
    quotation, list, record, null, yes, no, NumberScan.begin?, minus, ↓reduceIte,
    digitValue?_digitChar small]
  rfl

theorem begin_negative (st : List Frame) {d : Nat} (small : d < 10) :
    ['-', digitChar d].foldl Machine.step ⟨st, .value⟩ =
      ⟨st, .number (.ofDigits true [d] (if d = 0 then .zero else .whole))⟩ := by
  have sign : Machine.step ⟨st, .value⟩ '-' = ⟨st, .number (.ofDigits true [] .sign)⟩ := rfl
  rw [List.foldl_cons, sign, List.foldl_cons, List.foldl_nil]
  simp only [Machine.step, Machine.numberStep, NumberScan.next, digitValue?_digitChar small]
  rfl

theorem read_digitList (st : List Frame) (negative : Bool) (n : Nat) (front : List Char)
    (first : ∀ d, d < 10 → (front ++ [digitChar d]).foldl Machine.step ⟨st, .value⟩ =
      ⟨st, .number (.ofDigits negative [d] (if d = 0 then .zero else .whole))⟩) :
    ∃ place, (place = Place.zero ∨ place = .whole) ∧
      (front ++ digits n).foldl Machine.step ⟨st, .value⟩ =
        ⟨st, .number (.ofDigits negative (digitList n).reverse place)⟩ := by
  obtain ⟨d, ds, eq, zero⟩ := digitList_head n
  have small : ∀ x ∈ d :: ds, x < 10 := eq ▸ digitList_small n
  have begun := first d (small d List.mem_cons_self)
  rw [digits_eq_map, eq, List.map_cons, ← List.singleton_append, ← List.append_assoc,
    List.foldl_append, begun]
  by_cases none : d = 0
  · rw [(zero none).2, if_pos none]
    exact ⟨.zero, .inl rfl, rfl⟩
  · rw [if_neg none, read_digits st negative ds [d] fun x hx => small x (List.mem_cons_of_mem d hx)]
    exact ⟨.whole, .inr rfl, by rw [List.reverse_cons]⟩

/-- The machine has read the value with this document: it has handed it on, or it is at the end of
    a number that the next character will end. -/
def Ends (m : Machine) (d : Document) (st : List Frame) : Prop :=
  m = Machine.deliver d st ∨ ∃ n : NumberScan, m = ⟨st, .number n⟩ ∧
    (n.place = .zero ∨ n.place = .whole) ∧ Machine.numberDocument n = d

theorem digits_value (negative : Bool) (n : Nat) (place : Place) (fits : n < UInt64.size) :
    (NumberScan.ofDigits negative (digitList n).reverse place).parts.value? =
      if !negative then some (.natural n)
      else if 0 < n ∧ n ≤ Nat.pow 2 63 then some (.negative n)
      else (NumberScan.ofDigits negative (digitList n).reverse place).parts.double?.map .real := by
  simp only [NumberScan.parts, NumberScan.ofDigits, NumberText.value?, List.reverse_reverse,
    absorb_digitList n fits]
  rfl

theorem read_number (st : List Frame) (n : Number) (whole : n.Whole) :
    Ends (n.text.toList.foldl Machine.step ⟨st, .value⟩) (.number n) st := by
  cases n with
  | natural n =>
    obtain ⟨place, ended, read⟩ := read_digitList st false n [] fun d small => begin_digit st small
    refine .inr ⟨.ofDigits false (digitList n).reverse place, ?_, ended, ?_⟩
    · rw [Number.text, numeral_toList]
      exact read
    · rw [Machine.numberDocument, digits_value false n place whole]
      rfl
  | negative n =>
    obtain ⟨positive, bound⟩ := whole
    obtain ⟨place, ended, read⟩ :=
      read_digitList st true n ['-'] fun d small => begin_negative st small
    refine .inr ⟨.ofDigits true (digitList n).reverse place, ?_, ended, ?_⟩
    · rw [Number.text, String.toList_append, numeral_toList]
      exact read
    · have written : 0 < n ∧ n ≤ Nat.pow 2 63 := ⟨positive, bound⟩
      have fits : n < UInt64.size := Nat.lt_of_le_of_lt bound (by decide)
      rw [Machine.numberDocument, digits_value true n place fits]
      simp only [written, Bool.not_true, Bool.false_eq_true, and_self, ↓reduceIte]
  | real d => exact absurd whole id

end Json

end IdentitySync
