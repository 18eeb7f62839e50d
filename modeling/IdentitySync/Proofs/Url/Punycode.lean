import IdentitySync.Url.Punycode
import Mathlib.Data.List.Basic

/-!
A code in small letters is the only one of the label that it is decoded to: decoding puts the
characters into the label in the order in which encoding takes them out. Between two of them, what
the encoder still has to pass in its present round is known from the label so far.
-/
namespace IdentitySync.Url.Punycode

theorem threshold_le (k bias : Nat) : threshold k bias ≤ 26 := by
  unfold threshold
  split
  · omega
  · split <;> omega

theorem digitOf_of_valueOf? {c : Char} {d : Nat} (small : c.isUpper = false)
    (value : valueOf? c = some d) : d < base ∧ c = digitOf d := by
  have notUpper : ¬(65 ≤ c.toNat ∧ c.toNat ≤ 90) := of_decide_eq_false small
  simp only [valueOf?] at value
  split at value
  · rename_i letter
    cases value
    refine ⟨by rw [base]; omega, ?_⟩
    rw [digitOf, if_pos (by omega), Nat.add_sub_cancel' letter.1, Char.ofNat_toNat]
  · split at value
    · rename_i digit
      cases value
      refine ⟨by rw [base]; omega, ?_⟩
      rw [digitOf, if_neg (by omega), Nat.add_sub_cancel' (by omega), Char.ofNat_toNat]
    · cases value

theorem writeNumber_digit {d k bias : Nat} (last : d < threshold k bias) :
    writeNumber d k bias = [digitOf d] := by
  rw [writeNumber]
  simp only [if_pos last]

theorem writeNumber_cons {d k bias : Nat} (q : Nat) (small : d < base)
    (more : threshold k bias ≤ d) :
    writeNumber (d + q * (base - threshold k bias)) k bias =
      digitOf d :: writeNumber q (k + base) bias := by
  have le := threshold_le k bias
  have room : d - threshold k bias < base - threshold k bias := by omega
  have shifted : d + q * (base - threshold k bias) - threshold k bias =
      (d - threshold k bias) + q * (base - threshold k bias) := by omega
  have own : (d - threshold k bias + q * (base - threshold k bias)) % (base - threshold k bias) =
      d - threshold k bias := by
    rw [Nat.add_mul_mod_self_right, Nat.mod_eq_of_lt room]
  have others : (d - threshold k bias + q * (base - threshold k bias)) /
      (base - threshold k bias) = q := by
    rw [Nat.add_mul_div_right _ _ (by omega), Nat.div_eq_of_lt room, Nat.zero_add]
  rw [writeNumber]
  simp only [shifted, own, others, Nat.add_sub_cancel' more]
  rw [if_neg (by omega)]

/-- What was read as a number is how that number is written. -/
theorem eq_writeNumber_of_readNumber {bias : Nat} {cs : List Char} {i w k : Nat}
    {r : Nat × List Char} (small : ∀ c ∈ cs, c.isUpper = false)
    (read : readNumber bias i w k cs = some r) :
    ∃ q, r.1 = i + q * w ∧ cs = writeNumber q k bias ++ r.2 := by
  induction cs generalizing i w k with
  | nil => cases read
  | cons c cs ih =>
    rw [readNumber] at read
    split at read
    · cases read
    · rename_i d value
      obtain ⟨below, rfl⟩ := digitOf_of_valueOf? (small c List.mem_cons_self) value
      simp only at read
      split at read
      · cases read
      · split at read
        · rename_i last
          cases read
          exact ⟨d, rfl, by rw [writeNumber_digit last]; rfl⟩
        · rename_i more
          split at read
          · cases read
          · obtain ⟨q, sum, rest⟩ := ih (fun c own => small c (List.mem_cons_of_mem _ own)) read
            refine ⟨d + q * (base - threshold k bias), ?_, ?_⟩
            · rw [sum, Nat.add_mul, Nat.add_assoc, Nat.mul_assoc, Nat.mul_comm w]
            · rw [writeNumber_cons q below (Nat.not_lt.mp more), List.cons_append, ← rest]

theorem foldl_encodePoint (b n : Nat) (p : Progress) (xs : List Nat) :
    xs.foldl (encodePoint b n) p = (xs.filter (· ≤ n)).foldl (encodePoint b n) p := by
  induction xs generalizing p with
  | nil => rfl
  | cons x xs ih =>
    by_cases passed : x ≤ n
    · rw [List.filter_cons_of_pos (by simpa using passed), List.foldl_cons, List.foldl_cons, ih]
    · have same : encodePoint b n p x = p := by
        rw [encodePoint, if_neg (by omega), if_neg (by omega)]
      rw [List.filter_cons_of_neg (by simpa using passed), List.foldl_cons, same, ih]

theorem foldl_below {b n : Nat} {xs : List Nat} (below : ∀ x ∈ xs, x < n) (p : Progress) :
    xs.foldl (encodePoint b n) p = { p with delta := p.delta + xs.length } := by
  induction xs generalizing p with
  | nil => rfl
  | cons x xs ih =>
    obtain ⟨own, others⟩ := List.forall_mem_cons.mp below
    have counted : encodePoint b n p x = { p with delta := p.delta + 1 } := by
      rw [encodePoint, if_pos own]
    rw [List.foldl_cons, counted, ih others, List.length_cons, Nat.add_assoc, Nat.add_comm 1]

def resume (points : List Nat) (b fuel n : Nat) (rest : List Nat) (p : Progress) : List Char :=
  let q := rest.foldl (encodePoint b n) p
  encodeFrom points b fuel (n + 1) { q with delta := q.delta + 1 }

section
variable {points rest : List Nat} {b fuel n m : Nat} {p : Progress}

theorem encodeFrom_none (passed : ∀ x ∈ points, x < n) :
    encodeFrom points b fuel n p = p.written := by
  have none : points.filter (fun c => n ≤ c) = [] := by
    rw [List.filter_eq_nil_iff]
    intro x own
    simpa using passed x own
  cases fuel with
  | zero => rfl
  | succ fuel => rw [encodeFrom, none]; rfl

theorem encodeFrom_some (own : m ∈ points) (from' : n ≤ m) (least : ∀ x ∈ points, n ≤ x → m ≤ x) :
    encodeFrom points b (fuel + 1) n p =
      resume points b fuel m points { p with delta := p.delta + (m - n) * (p.handled + 1) } := by
  have found : (points.filter fun c => n ≤ c).min? = some m := by
    rw [List.min?_eq_some_iff]
    constructor
    · exact List.mem_filter.mpr ⟨own, by simpa using from'⟩
    · intro x hx
      obtain ⟨hx, ahead⟩ := List.mem_filter.mp hx
      exact least x hx (by simpa using ahead)
  rw [encodeFrom, found]
  rfl

theorem resume_below (below : ∀ x ∈ rest, x < n) :
    resume points b fuel n rest p =
      encodeFrom points b fuel (n + 1) { p with delta := p.delta + rest.length + 1 } := by
  rw [resume, foldl_below below]

theorem resume_filter : resume points b fuel n rest p =
    resume points b fuel n (rest.filter (· ≤ n)) p := by
  rw [resume, foldl_encodePoint, ← resume]

theorem resume_point {before : List Nat} (below : ∀ x ∈ before, x < n) :
    resume points b fuel n (before ++ n :: rest) p = resume points b fuel n rest
      ⟨p.written ++ writeNumber (p.delta + before.length) base p.bias, 0,
        adapt (p.delta + before.length) (p.handled + 1) (p.handled = b), p.handled + 1⟩ := by
  have point : ∀ q : Progress, encodePoint b n q n =
      ⟨q.written ++ writeNumber q.delta base q.bias, 0,
        adapt q.delta (q.handled + 1) (q.handled = b), q.handled + 1⟩ := by
    intro q
    rw [encodePoint, if_neg (Nat.lt_irrefl n), if_pos rfl]
  rw [resume, List.foldl_append, foldl_below below, List.foldl_cons, point]
  rfl

end

/-- Where the decoder stands: `i` is behind the place of the last point, which was `n`. -/
structure Standing (b n i : Nat) (out : List Nat) : Prop where
  inside : i ≤ out.length
  passed : ∀ x ∈ out.take i, x ≤ n
  ahead : ∀ x ∈ out.drop i, x < n
  more : b ≤ out.length
  first : i = 0 ↔ out.length = b

def inserted (out : List Nat) (place point : Nat) : List Nat :=
  out.take place ++ point :: out.drop place

section
variable {points out : List Nat} {b n i place point : Nat}

theorem inserted_take (inside : place ≤ out.length) :
    (inserted out place point).take (place + 1) = out.take place ++ [point] := by
  have length : (out.take place).length = place := List.length_take_of_le inside
  rw [inserted, List.take_append, length, Nat.add_sub_cancel_left, List.take_succ_cons,
    List.take_zero, List.take_of_length_le (by omega)]

theorem inserted_drop (inside : place ≤ out.length) :
    (inserted out place point).drop (place + 1) = out.drop place := by
  have length : (out.take place).length = place := List.length_take_of_le inside
  rw [inserted, List.drop_append, length, Nat.add_sub_cancel_left, List.drop_succ_cons,
    List.drop_zero, List.drop_of_length_le (by omega), List.nil_append]

theorem inserted_length (inside : place ≤ out.length) :
    (inserted out place point).length = out.length + 1 := by
  rw [inserted, List.length_append, List.length_cons, List.length_take_of_le inside,
    List.length_drop]
  omega

namespace Standing

theorem le (h : Standing b n i out) : ∀ x ∈ out, x ≤ n := by
  intro x own
  rw [← List.take_append_drop i out] at own
  rcases List.mem_append.mp own with before | behind
  · exact h.passed x before
  · exact Nat.le_of_lt (h.ahead x behind)

theorem next (h : Standing b n i out) (inside : place ≤ out.length)
    (later : n < point ∨ point = n ∧ i ≤ place) :
    Standing b point (place + 1) (inserted out place point) := by
  have upTo : n ≤ point := by
    rcases later with larger | ⟨same, _⟩
    · exact Nat.le_of_lt larger
    · exact Nat.le_of_eq same.symm
  have length : (inserted out place point).length = out.length + 1 := inserted_length inside
  have more := h.more
  refine ⟨by omega, ?_, ?_, by omega, by omega⟩
  · intro x own
    rw [inserted_take inside] at own
    rcases List.mem_append.mp own with before | point
    · exact Nat.le_trans (h.le x (List.mem_of_mem_take before)) upTo
    · exact Nat.le_of_eq (List.mem_singleton.mp point)
  · intro x own
    rw [inserted_drop inside] at own
    rcases later with larger | ⟨rfl, behind⟩
    · exact Nat.lt_of_le_of_lt (h.le x (List.mem_of_mem_drop own)) larger
    · exact h.ahead x (List.drop_subset_drop_left out behind own)

end Standing

/-- From where the decoder stands, the encoder of the whole label writes the rest of the code. -/
def Resumes (points : List Nat) (b n i bias : Nat) (out : List Nat) (code : List Char) : Prop :=
  ∃ rest, points.filter (· ≤ n) = out.take i ++ rest ∧ rest.filter (· < n) = out.drop i ∧
    ∀ fuel (p : Progress), (points.filter (n < ·)).length ≤ fuel → p.delta = 0 → p.bias = bias →
      p.handled = out.length → resume points b fuel n rest p = p.written ++ code

theorem Standing.resumes_end (h : Standing b n i out) (bias : Nat) :
    Resumes out b n i bias out [] := by
  have all : out.filter (· ≤ n) = out := by
    rw [List.filter_eq_self]
    intro x own
    simpa using h.le x own
  have below : (out.drop i).filter (· < n) = out.drop i := by
    rw [List.filter_eq_self]
    intro x own
    simpa using h.ahead x own
  refine ⟨out.drop i, ?_, below, fun fuel p _ _ _ _ => ?_⟩
  · rw [all, List.take_append_drop]
  · rw [resume_below h.ahead, encodeFrom_none fun x own => Nat.lt_succ_of_le (h.le x own),
      List.append_nil]

theorem filter_lt_self {xs : List Nat} (below : ∀ x ∈ xs, x < n) : xs.filter (· < n) = xs :=
  List.filter_eq_self.mpr fun x own => by simpa using below x own

/-- The same point once more, at a later place: the round goes on. -/
theorem Standing.resumes_same {bias : Nat} {code : List Char} (h : Standing b n i out)
    (inside : place ≤ out.length) (behind : i ≤ place)
    (next : Resumes points b n (place + 1) (adapt (place - i) (out.length + 1) (i = 0))
      (inserted out place n) code) :
    Resumes points b n i bias out (writeNumber (place - i) base bias ++ code) := by
  obtain ⟨rest, upTo, below, goes⟩ := next
  rw [inserted_take inside, List.append_assoc, List.singleton_append] at upTo
  rw [inserted_drop inside] at below
  have between : ∀ x ∈ (out.take place).drop i, x < n := by
    intro x own
    rw [List.drop_take] at own
    exact h.ahead x (List.mem_of_mem_take own)
  refine ⟨(out.take place).drop i ++ n :: rest, ?_, ?_, ?_⟩
  · have split : out.take i ++ (out.take place).drop i = out.take place := by
      have kept : (out.take place).take i = out.take i := by
        rw [List.take_take, Nat.min_eq_left behind]
      rw [← kept, List.take_append_drop]
    rw [upTo, ← List.append_assoc, split]
  · have split : (out.take place).drop i ++ out.drop place = out.drop i := by
      rw [← List.drop_append_of_le_length (by rw [List.length_take_of_le inside]; exact behind),
        List.take_append_drop]
    rw [List.filter_append, filter_lt_self between, List.filter_cons_of_neg (by simp), below, split]
  · intro fuel p enough start same handled
    have steps : p.delta + ((out.take place).drop i).length = place - i := by
      rw [start, List.length_drop, List.length_take_of_le inside, Nat.zero_add]
    have isFirst : decide (p.handled = b) = decide (i = 0) := by
      rw [handled]
      exact decide_eq_decide.mpr h.first.symm
    rw [resume_point between, steps, same, isFirst, handled,
      goes fuel _ enough rfl rfl (inserted_length inside).symm, List.append_assoc]

/-- A larger point: the round ends and those of the points between have nothing to write. -/
theorem Standing.resumes_larger {bias : Nat} {code : List Char} (h : Standing b n i out)
    (inside : place ≤ out.length) (larger : n < point) {steps : Nat}
    (count : i + steps = (point - n) * (out.length + 1) + place)
    (next : Resumes points b point (place + 1) (adapt steps (out.length + 1) (i = 0))
      (inserted out place point) code) :
    Resumes points b n i bias out (writeNumber steps base bias ++ code) := by
  obtain ⟨rest, upTo, below, goes⟩ := next
  rw [inserted_take inside, List.append_assoc, List.singleton_append] at upTo
  rw [inserted_drop inside] at below
  have smaller : ∀ x ∈ out, x < point := fun x own => Nat.lt_of_le_of_lt (h.le x own) larger
  have before : ∀ x ∈ out.take place, x < point := fun x own =>
    smaller x (List.mem_of_mem_take own)
  have known : points.filter (· < point) = out := by
    have narrowed : points.filter (· < point) = (points.filter (· ≤ point)).filter (· < point) := by
      rw [List.filter_filter]
      exact List.filter_congr fun x _ => by simpa using Nat.le_of_lt
    rw [narrowed, upTo, List.filter_append, filter_lt_self before,
      List.filter_cons_of_neg (by simp), below, List.take_append_drop]
  have own : point ∈ points := by
    have mem : point ∈ points.filter (· ≤ point) := by rw [upTo]; simp
    exact List.mem_of_mem_filter mem
  have least : ∀ x ∈ points, n + 1 ≤ x → point ≤ x := by
    intro x hx ahead
    by_contra less
    have passed : x ∈ points.filter (· < point) := List.mem_filter.mpr ⟨hx, by simpa using less⟩
    rw [known] at passed
    exact absurd (h.le x passed) (by omega)
  refine ⟨out.drop i, ?_, filter_lt_self h.ahead, ?_⟩
  · have narrowed : points.filter (· ≤ n) = (points.filter (· < point)).filter (· ≤ n) := by
      rw [List.filter_filter]
      exact List.filter_congr fun x _ => by simp; omega
    rw [narrowed, known, List.take_append_drop, List.filter_eq_self]
    exact fun x own => by simpa using h.le x own
  · intro fuel p enough start same handled
    have fewer : (points.filter (point < ·)).length < (points.filter (n < ·)).length := by
      have narrowed : points.filter (point < ·) = (points.filter (n < ·)).filter (point < ·) := by
        rw [List.filter_filter]
        exact List.filter_congr fun x _ => by simp; omega
      rw [narrowed, List.length_filter_lt_length_iff_exists]
      exact ⟨point, List.mem_filter.mpr ⟨own, by simpa using larger⟩, by simp⟩
    obtain ⟨fuel, rfl⟩ := Nat.exists_eq_add_one_of_ne_zero (n := fuel) (by omega)
    have passed : p.delta + (out.drop i).length + 1 + (point - (n + 1)) * (p.handled + 1) +
        (out.take place).length = steps := by
      have rounds : (point - n) * (out.length + 1) =
          (point - (n + 1)) * (out.length + 1) + (out.length + 1) := by
        rw [← Nat.succ_mul]
        congr 1
        omega
      have start' := h.inside
      rw [start, handled, List.length_drop, List.length_take_of_le inside]
      omega
    have isFirst : decide (p.handled = b) = decide (i = 0) := by
      rw [handled]
      exact decide_eq_decide.mpr h.first.symm
    rw [resume_below h.ahead, encodeFrom_some own (by omega) least, resume_filter, upTo,
      resume_point before, passed, same, isFirst, handled,
      goes fuel _ (by omega) rfl rfl (inserted_length inside).symm, List.append_assoc]

theorem Standing.resumes_next {bias i' : Nat} {code : List Char} (h : Standing b n i out)
    (from' : i ≤ i')
    (next : Resumes points b (n + i' / (out.length + 1)) (i' % (out.length + 1) + 1)
      (adapt (i' - i) (out.length + 1) (i = 0))
      (inserted out (i' % (out.length + 1)) (n + i' / (out.length + 1))) code) :
    Resumes points b n i bias out (writeNumber (i' - i) base bias ++ code) := by
  have inside : i' % (out.length + 1) ≤ out.length :=
    Nat.le_of_lt_succ (Nat.mod_lt _ (Nat.succ_pos _))
  have parts := Nat.div_add_mod' i' (out.length + 1)
  rcases Nat.eq_zero_or_pos (i' / (out.length + 1)) with same | larger
  · rw [same, Nat.zero_mul, Nat.zero_add] at parts
    rw [same, Nat.add_zero, parts] at next
    exact h.resumes_same (parts ▸ inside) from' next
  · refine h.resumes_larger inside (by omega) ?_ next
    rw [Nat.add_sub_cancel_left, parts]
    omega

end

theorem resumes_of_decodeFrom {b n i bias : Nat} {out code cs : List Char}
    (small : ∀ c ∈ code, c.isUpper = false) (h : Standing b n i (out.map Char.toNat))
    (decoded : decodeFrom n i bias out code = some cs) :
    Resumes (cs.map Char.toNat) b n i bias (out.map Char.toNat) code := by
  fun_induction decodeFrom n i bias out code with
  | case1 n i bias out code ended =>
    cases decoded
    rw [List.isEmpty_iff.mp ended]
    exact h.resumes_end bias
  | case2 => cases decoded
  | case3 => cases decoded
  | case4 n i bias out code more i' rest read count point valid place ih =>
    obtain ⟨q, sum, written⟩ := eq_writeNumber_of_readNumber small read
    rw [Nat.mul_one] at sum
    have behind : i ≤ i' := by omega
    have pointed : (Char.ofNat point).toNat = point := by
      have isChar : point.isValidChar := by
        rw [Nat.isValidChar]
        omega
      rw [Char.ofNat, dif_pos isChar]
      rfl
    have placed : place ≤ (out.map Char.toNat).length := by
      rw [List.length_map]
      exact Nat.le_of_lt_succ (Nat.mod_lt _ (Nat.succ_pos _))
    have next : (out.take place ++ Char.ofNat point :: out.drop place).map Char.toNat =
        inserted (out.map Char.toNat) place point := by
      rw [List.map_append, List.map_cons, List.map_take, List.map_drop, pointed, inserted]
    have later : n < point ∨ point = n ∧ i ≤ place := by
      rcases Nat.eq_zero_or_pos (i' / count) with same | larger
      · have whole : place = i' := Nat.mod_eq_of_lt ((Nat.div_eq_zero_iff_lt (by omega)).mp same)
        exact .inr ⟨by omega, by omega⟩
      · exact .inl (by omega)
    have resumed := ih (fun c own => small c (by rw [written]; exact List.mem_append_right _ own))
      (next ▸ h.next placed later) decoded
    rw [next] at resumed
    have steps : q = i' - i := by omega
    rw [written, steps]
    exact h.resumes_next behind (by rw [List.length_map]; exact resumed)

section
variable {points out : List Nat} {b fuel n bias : Nat} {p : Progress} {code : List Char}

theorem encodeFrom_absent (absent : n ∉ points) :
    encodeFrom points b fuel n p =
      encodeFrom points b fuel (n + 1) { p with delta := p.delta + p.handled + 1 } := by
  have same : points.filter (fun c => n ≤ c) = points.filter (fun c => n + 1 ≤ c) := by
    refine List.filter_congr fun x own => ?_
    have apart : x ≠ n := fun same => absent (same ▸ own)
    simp only [decide_eq_decide]
    omega
  cases fuel with
  | zero => rfl
  | succ fuel =>
    rw [encodeFrom, encodeFrom, same]
    cases least : (points.filter fun c => n + 1 ≤ c).min? with
    | none => rfl
    | some m =>
      have ahead : n + 1 ≤ m := by
        have own := List.min?_mem least
        simpa using (List.mem_filter.mp own).2
      have steps : p.delta + p.handled + 1 + (m - (n + 1)) * (p.handled + 1) =
          p.delta + (m - n) * (p.handled + 1) := by
        have rounds : m - n = m - (n + 1) + 1 := by omega
        rw [rounds, Nat.add_one_mul (m - (n + 1))]
        omega
      simp only [steps]

theorem Resumes.known (h : Resumes points b n 0 bias out code) : points.filter (· < n) = out := by
  obtain ⟨rest, upTo, below, _⟩ := h
  rw [List.take_zero, List.nil_append] at upTo
  rw [List.drop_zero] at below
  rw [← below, ← upTo, List.filter_filter]
  exact List.filter_congr fun x _ => by simpa using Nat.le_of_lt

/-- The encoder of the whole label writes all of the code. -/
theorem Resumes.encodes (h : Resumes points b n 0 bias out code) (enough : points.length ≤ fuel)
    (start : p.delta = 0) (same : p.bias = bias) (handled : p.handled = out.length) :
    encodeFrom points b (fuel + 1) n p = p.written ++ code := by
  have known := h.known
  obtain ⟨rest, upTo, below, goes⟩ := h
  rw [List.take_zero, List.nil_append] at upTo
  rw [List.drop_zero] at below
  have ahead : (points.filter (n < ·)).length ≤ fuel :=
    Nat.le_trans (List.length_filter_le _ _) enough
  by_cases own : n ∈ points
  · have here : { p with delta := p.delta + (n - n) * (p.handled + 1) } = p := by
      rw [Nat.sub_self, Nat.zero_mul, Nat.add_zero]
    rw [encodeFrom_some own (Nat.le_refl n) (fun x _ from' => from'), here, resume_filter, upTo]
    exact goes fuel p ahead start same handled
  · have none : points.filter (· ≤ n) = points.filter (· < n) := by
      refine List.filter_congr fun x mem => ?_
      have apart : x ≠ n := fun same => own (same ▸ mem)
      simp only [decide_eq_decide]
      omega
    have whole : rest = out := by rw [← upTo, none, known]
    have passed : ∀ x ∈ rest, x < n := by
      intro x mem
      rw [whole, ← known] at mem
      simpa using (List.mem_filter.mp mem).2
    rw [encodeFrom_absent own, ← goes (fuel + 1) p (by omega) start same handled,
      resume_below passed, whole, handled]

end

theorem encode_basic {cs : List Char} (basic : ∀ c ∈ cs, c.toNat < 128) :
    encode cs = if cs.isEmpty then [] else cs ++ ['-'] := by
  have kept : cs.filter (fun c => c.toNat < 128) = cs :=
    List.filter_eq_self.mpr fun c own => by simpa using basic c own
  have none : ∀ x ∈ cs.map Char.toNat, x < 128 := List.forall_mem_map.mpr basic
  simp only [encode, kept]
  rw [encodeFrom_none none]

theorem split_at_last_hyphen (code : List Char) :
    let tail := (code.reverse.takeWhile (· ≠ '-')).reverse
    tail = code ∨ ∃ basic, code = basic ++ '-' :: tail := by
  intro tail
  have parts : code.reverse.takeWhile (· ≠ '-') ++ code.reverse.dropWhile (· ≠ '-') =
      code.reverse := List.takeWhile_append_dropWhile
  cases ended : code.reverse.dropWhile (· ≠ '-') with
  | nil =>
    rw [ended, List.append_nil] at parts
    exact .inl (List.reverse_eq_iff.mpr parts)
  | cons c before =>
    have hyphen : c = '-' := by
      have stopped := List.head?_dropWhile_not (· ≠ '-') code.reverse
      rw [ended] at stopped
      simpa using stopped
    refine .inr ⟨before.reverse, ?_⟩
    rw [ended, hyphen] at parts
    rw [← List.reverse_reverse code, ← parts]
    simp [tail]

theorem encode_of_decodeFrom {out code cs : List Char} (basic : ∀ c ∈ out, c.toNat < 128)
    (small : ∀ c ∈ code, c.isUpper = false) (decoded : decodeFrom 128 0 72 out code = some cs) :
    encode cs = (if out.isEmpty then [] else out ++ ['-']) ++ code := by
  have below : ∀ x ∈ out.map Char.toNat, x < 128 := List.forall_mem_map.mpr basic
  have start : Standing out.length 128 0 (out.map Char.toNat) := by
    refine ⟨Nat.zero_le _, fun x none => ?_, below, ?_, ?_⟩
    · cases none
    · exact Nat.le_of_eq (List.length_map _).symm
    · rw [List.length_map]
      simp
  have resumes := resumes_of_decodeFrom small start decoded
  have known : cs.filter (fun c => c.toNat < 128) = out := by
    have points := resumes.known
    rw [List.filter_map] at points
    exact (List.map_injective_iff.mpr fun c d => Char.toNat_inj.mp) points
  simp only [encode, known]
  exact resumes.encodes (Nat.le_of_eq (List.length_map _)) rfl rfl (List.length_map _).symm

theorem encode_decode {code cs : List Char} (ascii : ∀ c ∈ code, c.toNat < 128)
    (small : ∀ c ∈ code, c.isUpper = false) (decoded : decode code = some cs) :
    encode cs = code := by
  have parts := split_at_last_hyphen code
  simp only [decode] at decoded
  generalize (code.reverse.takeWhile (· ≠ '-')).reverse = tail at decoded parts
  rcases parts with rfl | ⟨basic, rfl⟩
  · rw [Nat.sub_self, if_pos rfl] at decoded
    exact encode_of_decodeFrom (by simp) small decoded
  · have count : (basic ++ '-' :: tail).length - tail.length - 1 = basic.length := by
      rw [List.length_append, List.length_cons]
      omega
    rw [count] at decoded
    cases basic with
    | nil =>
      rw [List.length_nil, if_pos rfl] at decoded
      exact encode_of_decodeFrom (by simp) small decoded
    | cons c basic =>
      rw [if_neg (by simp), List.take_left] at decoded
      have own : ∀ d ∈ c :: basic, d.toNat < 128 := fun d mem =>
        ascii d (List.mem_append_left _ mem)
      have others : ∀ d ∈ tail, d.isUpper = false := fun d mem =>
        small d (List.mem_append_right _ (List.mem_cons_of_mem _ mem))
      rw [encode_of_decodeFrom own others decoded]
      simp

end IdentitySync.Url.Punycode
