import IdentitySync.Proofs.Json.Scalar

/-!
Reading a written value. The machine reads the text of a value, from whatever is open around it,
and hands the value's document to what it stands in; at the end of a text nothing is left over.
The values are those whose numbers are whole and fit a word and whose nesting the reader follows.
-/
namespace IdentitySync.Json
open Text

mutual

/-- The value nests no deeper than the height, names every key of an object once, and has whole
    numbers only. -/
def Fits : Json → Nat → Prop
  | .number n, _ => n.Whole
  | .list _, 0 => False
  | .list items, h + 1 => ItemsFit items h
  | .record _, 0 => False
  | .record fields, h + 1 => (fields.map Prod.fst).Nodup ∧ FieldsFit fields h
  | _, _ => True

def ItemsFit : List Json → Nat → Prop
  | [], _ => True
  | j :: rest, h => j.Fits h ∧ ItemsFit rest h

def FieldsFit : List (String × Json) → Nat → Prop
  | [], _ => True
  | (_, j) :: rest, h => j.Fits h ∧ FieldsFit rest h

end

theorem step_after {m : Machine} {d : Document} {f : Frame} {st : List Frame}
    (read : Ends m d (f :: st)) (inside : ∀ done, f ≠ .record done) {c : Char}
    (ends : c = ',' ∨ c = ']' ∨ c = '\x7d') :
    Machine.step m c = (Machine.deliver d (f :: st)).separate c := by
  have space : Machine.isSpace c = false := by rcases ends with rfl | rfl | rfl <;> rfl
  have separator : (Machine.deliver d (f :: st)).plainStep c =
      (Machine.deliver d (f :: st)).separate c := by
    cases f with
    | list done => simp [Machine.plainStep, space, Machine.deliver]
    | member done key => simp [Machine.plainStep, space, Machine.deliver]
    | record done => exact absurd rfl (inside done)
  rw [← separator]
  rcases read with rfl | ⟨n, rfl, place, value⟩
  · cases f with
    | list done => rfl
    | member done key => rfl
    | record done => exact absurd rfl (inside done)
  · have ended : n.next c = none := by
      rcases place with h | h <;> rcases ends with rfl | rfl | rfl <;>
        simp [NumberScan.next, h] <;> rfl
    have complete : (n.complete && !isDigit c) = true := by
      rcases place with h | h <;> rcases ends with rfl | rfl | rfl <;>
        simp [NumberScan.complete, h] <;> rfl
    simp only [Machine.step, Machine.numberStep, ended, complete, ↓reduceIte, value]

theorem close_list {m : Machine} {d : Document} {done : List Document} {st : List Frame}
    (read : Ends m d (.list done :: st)) (shallow : st.length < Machine.depthLimit) :
    Machine.step m ']' = Machine.deliver (.list (done.reverse ++ [d]) true) st := by
  rw [step_after read (fun _ h => Frame.noConfusion h) (.inr (.inl rfl))]
  simp [Machine.deliver, Machine.separate, Machine.closeList, Machine.withinDepth, shallow]

theorem next_item {m : Machine} {d : Document} {done : List Document} {st : List Frame}
    (read : Ends m d (.list done :: st)) :
    Machine.step m ',' = ⟨.list (d :: done) :: st, .value⟩ := by
  rw [step_after read (fun _ h => Frame.noConfusion h) (.inl rfl)]
  rfl

theorem close_record {m : Machine} {d : Document} {done : List (Option String × Document)}
    {key : Option String} {st : List Frame}
    (read : Ends m d (.member done key :: st)) (shallow : st.length < Machine.depthLimit) :
    Machine.step m '\x7d' = Machine.deliver (.record (done.reverse ++ [(key, d)]) true) st := by
  rw [step_after read (fun _ h => Frame.noConfusion h) (.inr (.inr rfl))]
  simp [Machine.deliver, Machine.separate, Machine.closeRecord, Machine.withinDepth, shallow]

theorem next_member {m : Machine} {d : Document} {done : List (Option String × Document)}
    {key : Option String} {st : List Frame} (read : Ends m d (.member done key :: st)) :
    Machine.step m ',' = ⟨.record ((key, d) :: done) :: st, .key⟩ := by
  rw [step_after read (fun _ h => Frame.noConfusion h) (.inl rfl)]
  rfl

theorem chars_head {j : Json} {h : Nat} (fits : j.Fits h) :
    ∃ c cs, j.chars = c :: cs ∧ Machine.isSpace c = false ∧ c ≠ ']' := by
  cases j with
  | null => exact ⟨_, _, rfl, rfl, by decide⟩
  | bool b => cases b <;> exact ⟨_, _, rfl, rfl, by decide⟩
  | string s => exact ⟨_, _, rfl, rfl, by decide⟩
  | list items => exact ⟨_, _, rfl, rfl, by decide⟩
  | record fields => exact ⟨_, _, rfl, rfl, by decide⟩
  | number n =>
    cases n with
    | natural n =>
      obtain ⟨d, ds, eq, small⟩ := digits_head n
      refine ⟨digitChar d, ds, ?_, (digitChar_starts d small).1, ?_⟩
      · rw [chars, Number.text, numeral_toList, eq]
      · intro same
        have value := digitValue?_digitChar small
        rw [same] at value
        cases value
    | negative n =>
      refine ⟨'-', digits n, ?_, rfl, by decide⟩
      rw [chars, Number.text, String.toList_append, numeral_toList]
      rfl
    | real d => exact absurd fits id

theorem first_item (st : List Frame) {c : Char} (space : Machine.isSpace c = false)
    (open_ : c ≠ ']') (cs : List Char) : (c :: cs).foldl Machine.step ⟨st, .firstItem⟩ =
      (c :: cs).foldl Machine.step ⟨st, .value⟩ := by
  simp only [List.foldl_cons, Machine.step, Machine.plainStep, space, open_, ↓reduceIte]
  rfl

theorem itemChars_head {items : List Json} {h : Nat} (some : items ≠ []) (fits : ItemsFit items h) :
    ∃ c cs, itemChars items ++ [']'] = c :: cs ∧ Machine.isSpace c = false ∧ c ≠ ']' := by
  cases items with
  | nil => exact absurd rfl some
  | cons j rest =>
    obtain ⟨c, cs, eq, space, more⟩ := chars_head fits.1
    cases rest with
    | nil => exact ⟨c, cs ++ [']'], by rw [itemChars, eq]; rfl, space, more⟩
    | cons k rest =>
      refine ⟨c, cs ++ ',' :: itemChars (k :: rest) ++ [']'], ?_, space, more⟩
      rw [itemChars, eq]
      · rfl
      · exact List.cons_ne_nil k rest

mutual

theorem read_value : ∀ (j : Json) (h : Nat) (st : List Frame), j.Fits h →
    st.length + h ≤ Machine.depthLimit →
    Ends (j.chars.foldl Machine.step ⟨st, .value⟩) j.document st
  | .null, _, _, _, _ => .inl rfl
  | .bool true, _, _, _, _ => .inl rfl
  | .bool false, _, _, _, _ => .inl rfl
  | .number n, _, st, fits, _ => read_number st n fits
  | .string s, _, st, _, _ => .inl (read_string st s)
  | .list items, h + 1, st, fits, room => by
    by_cases empty : items = []
    · subst items
      refine .inl ?_
      change Machine.deliver (Machine.withinDepth st (.list [] true)) st = _
      rw [Machine.withinDepth, if_pos (by omega)]
      rfl
    · obtain ⟨c, cs, eq, space, more⟩ := itemChars_head empty fits
      have read := read_items items h st [] empty fits (by omega)
      rw [eq] at read
      rw [chars, eq, List.foldl_cons]
      exact .inl ((first_item (.list [] :: st) space more cs).trans read)
  | .record fields, h + 1, st, fits, room => by
    by_cases empty : fields = []
    · subst fields
      refine .inl ?_
      change Machine.deliver (Machine.withinDepth st (.record [] true)) st = _
      rw [Machine.withinDepth, if_pos (by omega)]
      rfl
    · exact .inl (read_fields fields h st [] .firstKey (.inl rfl) empty fits.2 (by omega))

theorem read_items : ∀ (items : List Json) (h : Nat) (st : List Frame) (done : List Document),
    items ≠ [] → ItemsFit items h → st.length + 1 + h ≤ Machine.depthLimit →
    (itemChars items ++ [']']).foldl Machine.step ⟨.list done :: st, .value⟩ =
      Machine.deliver (.list (done.reverse ++ documents items) true) st
  | [], _, _, _, filled, _, _ => absurd rfl filled
  | [j], h, st, done, _, fits, room => by
    have first := read_value j h (.list done :: st) fits.1 (by simp only [List.length_cons]; omega)
    rw [itemChars, List.foldl_append]
    exact close_list first (by omega)
  | j :: k :: rest, h, st, done, _, fits, room => by
    have first := read_value j h (.list done :: st) fits.1 (by simp only [List.length_cons]; omega)
    have others := read_items (k :: rest) h st (j.document :: done) (List.cons_ne_nil k rest)
      fits.2 room
    rw [itemChars, List.append_assoc, List.foldl_append, List.cons_append, List.foldl_cons,
      next_item first, others, List.reverse_cons, List.append_assoc]
    · rfl
    · exact List.cons_ne_nil k rest

theorem read_fields : ∀ (fields : List (String × Json)) (h : Nat) (st : List Frame)
    (done : List (Option String × Document)) (mode : Mode), mode = .firstKey ∨ mode = .key →
    fields ≠ [] → FieldsFit fields h → st.length + 1 + h ≤ Machine.depthLimit →
    (fieldChars fields ++ ['\x7d']).foldl Machine.step ⟨.record done :: st, mode⟩ =
      Machine.deliver (.record (done.reverse ++ documentFields fields) true) st
  | [], _, _, _, _, _, filled, _, _ => absurd rfl filled
  | [(k, j)], h, st, done, mode, ready, _, fits, room => by
    have first := read_value j h (.member done (some k) :: st) fits.1
      (by simp only [List.length_cons]; omega)
    rw [fieldChars, List.append_assoc, List.foldl_append, read_key st done mode ready k,
      List.cons_append, List.foldl_cons, List.foldl_append]
    exact close_record first (by omega)
  | (k, j) :: q :: rest, h, st, done, mode, ready, _, fits, room => by
    have first := read_value j h (.member done (some k) :: st) fits.1
      (by simp only [List.length_cons]; omega)
    have others := read_fields (q :: rest) h st ((some k, j.document) :: done) .key (.inr rfl)
      (List.cons_ne_nil q rest) fits.2 room
    rw [fieldChars, List.append_assoc, List.foldl_append, read_key st done mode ready k,
      List.cons_append, List.foldl_cons, List.append_assoc, List.foldl_append, List.cons_append,
      List.foldl_cons]
    · refine (congrArg (fun m => List.foldl Machine.step m _) (next_member first)).trans ?_
      rw [others, List.reverse_cons, List.append_assoc]
      rfl
    · exact List.cons_ne_nil _ rest

end

/-- A written value is read to its end as its own document. -/
theorem scan_text {j : Json} {h : Nat} (fits : j.Fits h) (room : h ≤ Machine.depthLimit) :
    scan j.text = (j.document, true) := by
  have read := read_value j h [] fits (by simpa using room)
  rw [scan, text, String.toList_ofList]
  change Machine.result (List.foldl Machine.step ⟨[], .value⟩ j.chars) = _
  rcases read with eq | ⟨n, eq, place, value⟩
  · rw [eq]
    rfl
  · rw [eq, ← value]
    rcases place with h | h <;> simp [Machine.result, NumberScan.complete, h]

end IdentitySync.Json
