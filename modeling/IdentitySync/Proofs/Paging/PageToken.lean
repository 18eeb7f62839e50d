import IdentitySync.Paging.PageNumber
import IdentitySync.Proofs.Json.Sorted

/-!
Page tokens carry the place of a listing from one call to the next. The stack written into a token
is read back from it whatever the texts in it, and a token points at one page: the empty one at the
first page, the one made from a next page at that page.
-/
namespace IdentitySync

namespace PageState

theorem fields_faithful : fields.Faithful :=
  ⟨Field.required_faithful _ Codec.string_faithful, by decide,
    Field.defaulted_faithful _ Codec.string_faithful _, by decide, trivial⟩

theorem codec_faithful : codec.Faithful := Codec.record_faithful fields_faithful fun _ => rfl

theorem codec_fits (h : Nat) : codec.Fits (h + 1) :=
  Codec.record_fits (by decide)
    ⟨Field.required_fits _ (Codec.string_fits h), Field.defaulted_fits _ (Codec.string_fits h) _,
      trivial⟩

end PageState

namespace PageStack

theorem fields_faithful : fields.Faithful :=
  ⟨Field.defaulted_faithful _ (Codec.list_faithful PageState.codec_faithful) _, by decide, trivial⟩

theorem codec_faithful : codec.Faithful := Codec.record_faithful fields_faithful fun _ => rfl

theorem codec_fits : codec.Fits 3 :=
  Codec.record_fits (by decide)
    ⟨Field.defaulted_fits _ (Codec.list_fits (PageState.codec_fits 0)) _, trivial⟩

end PageStack

theorem Json.text_record_ne_empty (fields : List (String × Json)) :
    (Json.record fields).text ≠ "" := by
  intro same
  have list := congrArg String.toList same
  rw [Json.text, String.toList_ofList] at list
  exact List.cons_ne_nil _ _ list

theorem max_one_positive (n : UInt32) : 1 ≤ max n 1 := by
  simp only [max]
  split
  · decide
  · rename_i h
    rw [UInt32.le_iff_toNat_le] at h ⊢
    omega

theorem max_one_of_positive {n : UInt32} (positive : 1 ≤ n) : max n 1 = n := by
  rw [UInt32.le_iff_toNat_le] at positive
  simp only [max, UInt32.le_iff_toNat_le, ← UInt32.toNat_inj]
  split
  · omega
  · rfl

namespace PageStack

theorem token_ne_empty (s : PageState) (states : List PageState) :
    (⟨s :: states⟩ : PageStack).token ≠ "" := Json.text_record_ne_empty _

theorem ofToken_token (b : PageStack) : ofToken b.token = .ok b := by
  obtain ⟨states⟩ := b
  cases states with
  | nil => rfl
  | cons s states =>
    rw [ofToken, if_neg (token_ne_empty s states)]
    have read := Codec.read_text codec_faithful codec_fits (by decide) ⟨s :: states⟩
    simp only [token, isEmpty, List.isEmpty_cons, Bool.false_eq_true, ↓reduceIte, read]

/-- The token points at the page of the listing of a resource type. -/
def PointsAt (resourceType token : String) (page : UInt32) : Prop :=
  ∃ place n, resume token resourceType = .ok ⟨[⟨resourceType, place⟩]⟩ ∧
    readPage place = .ok n ∧ page = max n 1

theorem empty_pointsAt (resourceType : String) : PointsAt resourceType "" 1 :=
  ⟨"", 1, rfl, rfl, rfl⟩

theorem pointsAt_positive {resourceType token : String} {page : UInt32}
    (h : PointsAt resourceType token page) : 1 ≤ page := by
  obtain ⟨_, n, _, _, rfl⟩ := h
  exact max_one_positive n

theorem readPage_pageToken (n : UInt32) : readPage (pageToken (some n)) = .ok n := by
  simp [readPage, pageToken]

theorem single_advance (s : PageState) {place : String} (some : place ≠ "") :
    (⟨[s]⟩ : PageStack).advance place = ⟨[{ s with token := place }]⟩ := by
  rw [advance, if_neg some]
  rfl

theorem nextToken_none (s : PageState) : (⟨[s]⟩ : PageStack).nextToken none = "" := rfl

theorem nextToken_some (s : PageState) (n : UInt32) :
    (⟨[s]⟩ : PageStack).nextToken (some n) ≠ "" ∧
      PointsAt s.resourceType ((⟨[s]⟩ : PageStack).nextToken (some n)) (max n 1) := by
  have some : pageToken (some n) ≠ "" := Text.numeral_ne_empty n.toNat
  have eq : (⟨[s]⟩ : PageStack).nextToken (.some n) =
      (⟨[{ s with token := pageToken (.some n) }]⟩ : PageStack).token := by
    rw [nextToken, single_advance s some]
  rw [eq]
  refine ⟨token_ne_empty _ _, pageToken (.some n), n, ?_, readPage_pageToken n, rfl⟩
  rw [resume, ofToken_token]
  rfl

theorem next_empty_iff (s : PageState) (next : Option UInt32) :
    (⟨[s]⟩ : PageStack).nextToken next = "" ↔ next = none := by
  cases next with
  | none => simp [nextToken_none]
  | some n => simp [(nextToken_some s n).1]

theorem pointsAt_request {resourceType token : String} {page : UInt32}
    (h : PointsAt resourceType token page) (size : UInt32) :
    ∃ place, resume token resourceType = .ok ⟨[⟨resourceType, place⟩]⟩ ∧
      request ⟨[⟨resourceType, place⟩]⟩ size = .ok ⟨page, clampPageSize size⟩ := by
  obtain ⟨place, n, resumed, read, rfl⟩ := h
  refine ⟨place, resumed, ?_⟩
  change (readPage place).map _ = _
  rw [read]
  rfl

end PageStack

theorem clampPageSize_bounds (size : UInt32) :
    1 ≤ clampPageSize size ∧ clampPageSize size ≤ 100 := by
  unfold clampPageSize greatestPageSize
  split
  · exact ⟨by decide, by decide⟩
  · rename_i h
    obtain ⟨positive, bound⟩ := not_or.mp h
    simp only [UInt32.le_iff_toNat_le, UInt32.lt_iff_toNat_lt, ← UInt32.toNat_inj] at *
    simp at *
    omega

end IdentitySync
