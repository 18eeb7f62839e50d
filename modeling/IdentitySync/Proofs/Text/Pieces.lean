import IdentitySync.Text.Blank

/-!
Texts joined by a mark. Cut at the mark they come apart again, from the front as long as what stands
before the first mark has none itself, and from the back as long as what stands behind the last one
has none. Cut at all of its marks, a joined text has the pieces of both texts.
-/
namespace IdentitySync.Text

variable {sep : Char} {x y x' y' : List Char}

@[simp] theorem splitFirst_append (y : List Char) (free : sep ∉ x) :
    splitFirst sep (x ++ sep :: y) = some (x, y) := by
  induction x with
  | nil => simp [splitFirst]
  | cons c cs ih =>
    have other : c ≠ sep := fun same => free (same ▸ List.mem_cons_self)
    simp [splitFirst, other, ih (List.not_mem_of_not_mem_cons free)]

theorem splitFirst_of_notMem (free : sep ∉ x) : splitFirst sep x = none := by
  induction x with
  | nil => rfl
  | cons c cs ih =>
    have other : c ≠ sep := fun same => free (same ▸ List.mem_cons_self)
    simp [splitFirst, other, ih (List.not_mem_of_not_mem_cons free)]

theorem joined_inj (free : sep ∉ x) (free' : sep ∉ x') :
    x ++ sep :: y = x' ++ sep :: y' ↔ x = x' ∧ y = y' := by
  constructor
  · intro same
    have cut := congrArg (splitFirst sep) same
    rw [splitFirst_append y free, splitFirst_append y' free'] at cut
    cases cut
    exact ⟨rfl, rfl⟩
  · rintro ⟨rfl, rfl⟩
    rfl

theorem joined_inj_last (free : sep ∉ y) (free' : sep ∉ y') :
    x ++ sep :: y = x' ++ sep :: y' ↔ x = x' ∧ y = y' := by
  have turned : ∀ x y : List Char, (x ++ sep :: y).reverse = y.reverse ++ sep :: x.reverse := by
    intro x y
    simp
  rw [← List.reverse_inj, turned, turned, joined_inj (by simpa using free) (by simpa using free'),
    List.reverse_inj, List.reverse_inj, and_comm]

theorem pieces_cases (sep : Char) (cs : List Char) :
    (sep ∉ cs ∧ pieces sep cs = [cs]) ∨
      ∃ x y, sep ∉ x ∧ cs = x ++ sep :: y ∧ pieces sep cs = x :: pieces sep y := by
  induction cs with
  | nil => exact .inl ⟨List.not_mem_nil, rfl⟩
  | cons c cs ih =>
    by_cases here : c = sep
    · refine .inr ⟨[], cs, List.not_mem_nil, ?_, ?_⟩
      · rw [here, List.nil_append]
      · rw [pieces, if_pos here]
    · rcases ih with ⟨free, one⟩ | ⟨x, y, free, eq, more⟩
      · refine .inl ⟨List.not_mem_cons_of_ne_of_not_mem (Ne.symm here) free, ?_⟩
        rw [pieces, if_neg here, one]
      · refine .inr ⟨c :: x, y, List.not_mem_cons_of_ne_of_not_mem (Ne.symm here) free, ?_, ?_⟩
        · rw [eq, List.cons_append]
        · rw [pieces, if_neg here, more]

theorem pieces_ne_nil (sep : Char) (cs : List Char) : pieces sep cs ≠ [] := by
  rcases pieces_cases sep cs with ⟨_, eq⟩ | ⟨_, _, _, _, eq⟩
  · rw [eq]
    exact List.cons_ne_nil _ _
  · rw [eq]
    exact List.cons_ne_nil _ _

theorem pieces_of_notMem (free : sep ∉ x) : pieces sep x = [x] := by
  rcases pieces_cases sep x with ⟨_, one⟩ | ⟨_, _, _, eq, _⟩
  · exact one
  · rw [eq] at free
    exact absurd (List.mem_append_cons_self) free

theorem pieces_append (x y : List Char) :
    pieces sep (x ++ sep :: y) = pieces sep x ++ pieces sep y := by
  induction x with
  | nil => simp [pieces]
  | cons c cs ih =>
    by_cases here : c = sep
    · simp [pieces, here, ih]
    · obtain ⟨p, ps, eq⟩ := List.exists_cons_of_ne_nil (pieces_ne_nil sep cs)
      simp [pieces, here, ih, eq]

theorem mem_pieces {cs p : List Char} (hp : p ∈ pieces sep cs) :
    ∃ a b, cs = a ++ p ++ b ∧ (a = [] ∨ ∃ before, a = before ++ [sep]) ∧
      (b = [] ∨ ∃ rest, b = sep :: rest) := by
  induction h : cs.length using Nat.strongRecOn generalizing cs with
  | ind n ih =>
    rcases pieces_cases sep cs with ⟨_, one⟩ | ⟨x, y, _, eq, more⟩
    · rw [one] at hp
      cases List.mem_singleton.mp hp
      exact ⟨[], [], by simp, .inl rfl, .inl rfl⟩
    · rw [more] at hp
      rcases List.mem_cons.mp hp with rfl | hp
      · exact ⟨[], sep :: y, by simp [eq], .inl rfl, .inr ⟨y, rfl⟩⟩
      · have shorter : y.length < n := by
          rw [← h, eq, List.length_append, List.length_cons]
          omega
        obtain ⟨a, b, split, front, behind⟩ := ih _ shorter hp rfl
        refine ⟨x ++ sep :: a, b, by simp [eq, split], .inr ?_, behind⟩
        rcases front with rfl | ⟨before, rfl⟩
        · exact ⟨x, rfl⟩
        · exact ⟨x ++ sep :: before, by simp⟩

theorem mem_tail_pieces {cs p : List Char} (hp : p ∈ (pieces sep cs).tail) :
    ∃ a b, cs = a ++ sep :: (p ++ b) ∧ (b = [] ∨ ∃ rest, b = sep :: rest) := by
  rcases pieces_cases sep cs with ⟨_, one⟩ | ⟨x, y, _, eq, more⟩
  · rw [one] at hp
    cases hp
  · rw [more] at hp
    obtain ⟨a, b, split, front, behind⟩ := mem_pieces hp
    rcases front with rfl | ⟨before, rfl⟩
    · exact ⟨x, b, by simp [eq, split], behind⟩
    · exact ⟨x ++ sep :: before, b, by simp [eq, split], behind⟩

end IdentitySync.Text
