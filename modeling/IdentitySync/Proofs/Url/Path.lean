import IdentitySync.Proofs.Text.Pieces
import IdentitySync.Proofs.Url.Continued

/-!
Paths put behind a path. Behind a slash a path without dot segments is read as it stands, and what
is in front of that slash is resolved by itself. It is what the path in front is read as alone,
without slashes at its end, unless that path ends in a backslash or in a dot segment.
-/
namespace IdentitySync.Url
open Text

/-- What has been resolved of segments when others follow; in reverse. -/
def stacked (done : List (List Char)) : List (List Char) → List (List Char)
  | [] => done
  | s :: rest =>
    if isDoubleDot s then stacked (withoutLast done) rest
    else if isSingleDot s then stacked done rest
    else stacked (encodeWith inPath s :: done) rest

theorem resolveSegments_append (done xs : List (List Char)) {ys : List (List Char)}
    (more : ys ≠ []) : resolveSegments done (xs ++ ys) = resolveSegments (stacked done xs) ys := by
  induction xs generalizing done with
  | nil => rfl
  | cons s xs ih =>
    have inner : (xs ++ ys).isEmpty = false := by simp [more]
    rw [List.cons_append, resolveSegments, stacked, inner]
    split
    · exact ih _
    · split
      · exact ih _
      · exact ih _

def Undotted (s : List Char) : Prop := isDoubleDot s = false ∧ isSingleDot s = false

theorem resolveSegments_undotted {s : List Char} (undotted : Undotted s)
    (done rest : List (List Char)) :
    resolveSegments done (s :: rest) = resolveSegments (encodeWith inPath s :: done) rest := by
  rw [resolveSegments, undotted.1, undotted.2]
  rfl

theorem stacked_last {s : List Char} (undotted : Undotted s) (done xs : List (List Char)) :
    stacked done (xs ++ [s]) = encodeWith inPath s :: stacked done xs := by
  induction xs generalizing done with
  | nil => simp [stacked, undotted.1, undotted.2]
  | cons x xs ih =>
    rw [List.cons_append, stacked, stacked]
    split
    · exact ih _
    · split
      · exact ih _
      · exact ih _

structure PlainSegment (s : List Char) : Prop where
  undotted : Undotted s
  unchanged : encodeWith inPath s = s

theorem resolveSegments_plain {ys : List (List Char)} (plain : ∀ s ∈ ys, PlainSegment s)
    (done : List (List Char)) : resolveSegments done ys = done.reverse ++ ys := by
  induction ys generalizing done with
  | nil => exact (List.append_nil _).symm
  | cons s ys ih =>
    obtain ⟨own, others⟩ := List.forall_mem_cons.mp plain
    rw [resolveSegments_undotted own.undotted, own.unchanged, ih others, List.reverse_cons,
      List.append_assoc]
    rfl

/-- A path that is read as it stands, without the slash in front of it. -/
structure PlainPath (y : List Char) : Prop where
  segments : ∀ s ∈ pieces '/' y, PlainSegment s
  slashed : '\\' ∉ y
  visible : Visible y
  untailed : Untailed y

theorem PlainPath.single {s : List Char} (plain : PlainSegment s) (slash : '/' ∉ s)
    (backslash : '\\' ∉ s) (visible : Visible s) (untailed : Untailed s) : PlainPath s := by
  refine ⟨fun p piece => ?_, backslash, visible, untailed⟩
  rw [pieces_of_notMem slash] at piece
  rw [List.mem_singleton.mp piece]
  exact plain

theorem PlainPath.joined {x y : List Char} (hx : PlainPath x) (hy : PlainPath y) :
    PlainPath (x ++ '/' :: y) := by
  constructor
  · intro s piece
    rw [pieces_append] at piece
    exact (List.mem_append.mp piece).elim (hx.segments s) (hy.segments s)
  · intro backslash
    rcases List.mem_append.mp backslash with before | behind
    · exact hx.slashed before
    · exact hy.slashed (List.mem_of_ne_of_mem (by decide) behind)
  · exact List.forall_mem_append.mpr
      ⟨hx.visible, List.forall_mem_cons.mpr ⟨by decide, hy.visible⟩⟩
  · exact List.forall_mem_append.mpr
      ⟨hx.untailed, List.forall_mem_cons.mpr ⟨by decide, hy.untailed⟩⟩

theorem plainPath_nil : PlainPath [] :=
  .single ⟨⟨by decide, by decide⟩, rfl⟩ List.not_mem_nil List.not_mem_nil
    (fun _ none => by cases none) fun _ none => by cases none

theorem plainPath_slashes (n : Nat) : PlainPath (List.replicate n '/') := by
  induction n with
  | zero => exact plainPath_nil
  | succ n ih => exact plainPath_nil.joined ih

theorem joinSegments_append (xs ys : List (List Char)) :
    joinSegments (xs ++ ys) = joinSegments xs ++ joinSegments ys := List.flatMap_append

theorem joinSegments_pieces (y : List Char) : joinSegments (pieces '/' y) = '/' :: y := by
  induction h : y.length using Nat.strongRecOn generalizing y with
  | ind n ih =>
    rcases pieces_cases '/' y with ⟨_, one⟩ | ⟨first, rest, _, split, more⟩
    · rw [one]
      exact List.append_nil _
    · have shorter : rest.length < n := by
        rw [← h, split, List.length_append, List.length_cons]
        omega
      have others := ih _ shorter rest rfl
      rw [more, split, joinSegments, List.flatMap_cons, ← joinSegments, others]
      rfl

theorem unifySlashes_unslashed {cs : List Char} (none : '\\' ∉ cs) :
    unifySlashes .special cs = cs := by
  refine (List.map_congr_left fun c mem => ?_).trans (List.map_id cs)
  have other : c ≠ '\\' := fun same => none (same ▸ mem)
  by_cases slash : c = '/'
  · simp [isSlash, slash]
  · simp [isSlash, slash, other]

theorem unifySlashes_behind {c : Char} (slash : isSlash .special c = true) (cs ds : List Char) :
    unifySlashes .special (cs ++ c :: ds) =
      unifySlashes .special cs ++ '/' :: unifySlashes .special ds := by
  simp [unifySlashes, slash]

def folder : List Char → List Char
  | [] => []
  | _ :: rest => joinSegments (stacked [] (pieces '/' (unifySlashes .special rest))).reverse

theorem readPath_slashed {c : Char} (slash : isSlash .special c = true) (rest : List Char) :
    readPath .special (c :: rest) =
      joinSegments (resolveSegments [] (pieces '/' (unifySlashes .special rest))) := by
  simp [readPath, unifySlashes, slash]

theorem readPath_behind {cs : List Char} (slashed : ∀ c ∈ cs.head?, isSlash .special c = true)
    {y : List Char} (plain : PlainPath y) :
    readPath .special (cs ++ '/' :: y) = folder cs ++ '/' :: y := by
  have own := unifySlashes_unslashed plain.slashed
  cases cs with
  | nil =>
    rw [List.nil_append, readPath_slashed (by decide), own, resolveSegments_plain plain.segments,
      List.reverse_nil, List.nil_append, joinSegments_pieces]
    rfl
  | cons c rest =>
    rw [List.cons_append, readPath_slashed (slashed c rfl), unifySlashes_behind (by decide), own,
      pieces_append, resolveSegments_append _ _ (pieces_ne_nil '/' y),
      resolveSegments_plain plain.segments,
      joinSegments_append, joinSegments_pieces]
    rfl

structure FullSegment (c : Char) (s : List Char) : Prop where
  slash : isSlash .special c = true
  inner : ∀ d ∈ s, isSlash .special d = false
  filled : s ≠ []
  undotted : Undotted s

namespace FullSegment

variable {own s : List Char} {c : Char} (h : FullSegment c s)
include h

theorem pieces_eq : pieces '/' (unifySlashes .special s) = [s] := by
  have unslashed : '\\' ∉ s := fun mem => by cases h.inner _ mem
  rw [unifySlashes_unslashed unslashed]
  exact pieces_of_notMem fun mem => by cases h.inner _ mem

theorem folder_eq (slashed : ∀ d ∈ own.head?, isSlash .special d = true) :
    ∃ front, folder (own ++ c :: s) = front ++ '/' :: encodeWith inPath s ∧
      readPath .special (own ++ c :: s) = folder (own ++ c :: s) := by
  obtain ⟨d, rest, xs, whole, first, segments⟩ : ∃ d rest xs, own ++ c :: s = d :: rest ∧
      isSlash .special d = true ∧ pieces '/' (unifySlashes .special rest) = xs ++ [s] := by
    cases own with
    | nil => exact ⟨c, s, [], rfl, h.slash, h.pieces_eq⟩
    | cons d own =>
      refine ⟨d, own ++ c :: s, pieces '/' (unifySlashes .special own), rfl, slashed d rfl, ?_⟩
      rw [unifySlashes_behind h.slash, pieces_append, h.pieces_eq]
  refine ⟨joinSegments (stacked [] xs).reverse, ?_, ?_⟩
  · rw [whole, folder, segments, stacked_last h.undotted, List.reverse_cons, joinSegments_append,
      joinSegments, joinSegments, List.flatMap_singleton]
  · rw [whole, readPath_slashed first, folder, segments,
      resolveSegments_append _ _ (List.cons_ne_nil _ _), resolveSegments_undotted h.undotted,
      stacked_last h.undotted]
    rfl

end FullSegment

theorem utf8Char_ne_nil (c : Char) : utf8Char c ≠ [] := by
  simp only [utf8Char]
  repeat' split
  all_goals exact List.cons_ne_nil _ _

theorem encodeWith_end {s : List Char} (filled : s ≠ []) (unslashed : '/' ∉ s)
    (escaped : List Char) : ∃ front c, encodeWith escaped s = front ++ [c] ∧ c ≠ '/' := by
  obtain ⟨own, last, rfl⟩ : ∃ own last, s = own ++ [last] :=
    ⟨_, _, (List.dropLast_append_getLast filled).symm⟩
  have parts : encodeWith escaped (own ++ [last]) =
      encodeWith escaped own ++ encodeWith escaped [last] := List.flatMap_append
  obtain ⟨front, c, ended, other⟩ :
      ∃ front c, encodeWith escaped [last] = front ++ [c] ∧ c ≠ '/' := by
    rw [encodeWith, List.flatMap_singleton]
    split
    · obtain ⟨bytes, b, split⟩ : ∃ bytes b, utf8Char last = bytes ++ [b] :=
        ⟨_, _, (List.dropLast_append_getLast (utf8Char_ne_nil last)).symm⟩
      have digits : ∀ n < 16, hexCapitalChar n ≠ '/' := by decide
      refine ⟨bytes.flatMap encodedByte ++ ['%', hexCapitalChar (b / 16)], hexCapitalChar (b % 16),
        ?_, digits _ (Nat.mod_lt b (by decide))⟩
      rw [split, List.flatMap_append, List.flatMap_singleton, encodedByte, List.append_assoc]
      rfl
    · exact ⟨[], last, rfl, fun same => unslashed (by simp [same])⟩
  exact ⟨encodeWith escaped own ++ front, c, by rw [parts, ended, List.append_assoc], other⟩

/-- A path that can be put in front of others: it is empty, or its last segment stays there. -/
inductive Closed : List Char → Prop where
  | empty : Closed []
  | segment {own s : List Char} {c : Char} (slashed : ∀ d ∈ own.head?, isSlash .special d = true)
      (full : FullSegment c s) : Closed (own ++ c :: s)

namespace Closed

variable {cs : List Char}

theorem slashed (h : Closed cs) : ∀ c ∈ cs.head?, isSlash .special c = true := by
  intro c first
  cases h with
  | empty => cases first
  | @segment own s d slashed full =>
    cases own with
    | nil =>
      cases first
      exact full.slash
    | cons e own => exact slashed c first

theorem folder_end (h : Closed cs) : (folder cs).rdropWhile (· = '/') = folder cs := by
  cases h with
  | empty => rfl
  | segment slashed full =>
    obtain ⟨front, split, _⟩ := full.folder_eq slashed
    have unslashed : '/' ∉ _ := fun mem => by cases full.inner _ mem
    obtain ⟨front', c, ended, other⟩ := encodeWith_end full.filled unslashed inPath
    rw [split, ended, ← List.cons_append, ← List.append_assoc]
    exact List.rdropWhile_concat_neg _ _ c (by simpa using other)

/-- Read with slashes behind it or without, such a path is what it is in front of a slash. -/
theorem readPath_slashes (h : Closed cs) (n : Nat) :
    (readPath .special (cs ++ List.replicate n '/')).rdropWhile (· = '/') = folder cs := by
  cases n with
  | zero =>
    rw [List.replicate_zero, List.append_nil]
    cases h with
    | empty => decide
    | segment slashed full =>
      obtain ⟨_, _, alone⟩ := full.folder_eq slashed
      rw [alone]
      exact (Closed.segment slashed full).folder_end
  | succ n =>
    have dropped : ∀ c ∈ '/' :: List.replicate n '/', decide (c = '/') = true := by
      intro c mem
      rw [← List.replicate_succ] at mem
      simpa using List.eq_of_mem_replicate mem
    rw [List.replicate_succ, readPath_behind h.slashed (plainPath_slashes n),
      rdropWhile_append_dropped dropped]
    exact h.folder_end

end Closed

end IdentitySync.Url
