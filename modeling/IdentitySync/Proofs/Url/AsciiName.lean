import IdentitySync.Proofs.Text.Pieces
import IdentitySync.Proofs.Url.Hosted
import IdentitySync.Proofs.Url.Punycode
import IdentitySync.Url.Host

/-!
Names of hosts that are in their ASCII form. Nothing decomposes or composes in them, their labels in
code are the codes of the labels decoded from them, and so a host that is read from such a name has
this name, unless it ends in a number and is an address.
-/
namespace IdentitySync

namespace Text

theorem place_zero (c : Char) (done : List Ranked) : place (c, 0) done = (c, 0) :: done := by
  cases done with
  | nil => rfl
  | cons p rest => rw [place, if_neg fun both => Nat.lt_irrefl 0 both.1]

theorem ordered_zero (cs : List Char) :
    ordered (cs.map fun c => (c, 0)) = cs.map fun c => (c, 0) := by
  have stacked : ∀ done : List Ranked,
      (cs.map fun c => (c, 0)).foldl (fun done r => place r done) done =
        (cs.map fun c => (c, 0)).reverse ++ done := by
    induction cs with
    | nil => exact fun _ => rfl
    | cons c cs ih =>
      intro done
      rw [List.map_cons, List.foldl_cons, place_zero, ih, List.reverse_cons, List.append_assoc]
      rfl
  rw [ordered, stacked, List.append_nil, List.reverse_reverse]

section
variable {cs : List Char} (low : ∀ c ∈ cs, c.toNat < firstCombining)
include low

theorem composeFrom_low (start : Char) :
    composeFrom start [] (cs.map fun c => (c, 0)) = start :: cs := by
  induction cs generalizing start with
  | nil => rfl
  | cons c cs ih =>
    have apart : composedPair? start c = none := if_pos (low c List.mem_cons_self)
    have rest := ih (fun d own => low d (List.mem_cons_of_mem c own)) c
    simp [composeFrom, apart, rest]

theorem composeRanked_low : composeRanked (cs.map fun c => (c, 0)) = cs := by
  cases cs with
  | nil => rfl
  | cons c cs => exact composeFrom_low (fun d own => low d (List.mem_cons_of_mem c own)) c

end

theorem composed_ascii {cs : List Char} (ascii : ∀ c ∈ cs, c.toNat < 128) : composed cs = cs := by
  have whole : cs.flatMap decomposed = cs := by
    have single : cs.flatMap decomposed = cs.flatMap fun c => [c] :=
      List.flatMap_congr fun c own => if_pos (Nat.lt_trans (ascii c own) (by decide))
    rw [single, List.flatMap_singleton']
  have low : ∀ c ∈ cs, c.toNat < firstCombining := fun c own =>
    Nat.lt_trans (ascii c own) (by decide)
  have unranked : cs.map ranked = cs.map fun c => (c, 0) :=
    List.map_congr_left fun c own => by rw [ranked, combiningClass, if_pos (low c own)]
  rw [composed, whole, unranked, ordered_zero, composeRanked_low low]

theorem decodeBytes_ascii {cs : List Char} (ascii : ∀ c ∈ cs, c.toNat < 128) :
    decodeBytes none (cs.map Char.toNat) = cs := by
  induction cs with
  | nil => rfl
  | cons c cs ih =>
    have own : c.toNat < 0x80 := ascii c List.mem_cons_self
    have single : decodeByte none c.toNat = ([c], none) := by
      rw [decodeByte, decodeFirst, utf8Start, if_pos own, Char.ofNat_toNat]
    rw [List.map_cons, decodeBytes, single, ih fun d own => ascii d (List.mem_cons_of_mem c own)]
    rfl

end Text

namespace Url
open Text

theorem joinWith_cons {sep : Char} (p : List Char) {ps : List (List Char)} (more : ps ≠ []) :
    joinWith sep (p :: ps) = p ++ sep :: joinWith sep ps := by
  obtain ⟨q, qs, rfl⟩ := List.exists_cons_of_ne_nil more
  rfl

theorem joinWith_pieces (sep : Char) (cs : List Char) : joinWith sep (pieces sep cs) = cs := by
  induction h : cs.length using Nat.strongRecOn generalizing cs with
  | ind n ih =>
    rcases pieces_cases sep cs with ⟨_, one⟩ | ⟨x, y, _, split, more⟩
    · rw [one]
      rfl
    · have shorter : y.length < n := by
        rw [← h, split, List.length_append, List.length_cons]
        omega
      rw [more, joinWith_cons x (pieces_ne_nil sep y), ih _ shorter y rfl, split]

def isNameChar (c : Char) : Bool := isHostChar c && !c.isUpper

section
variable {c : Char} (own : isNameChar c = true)
include own

theorem isNameChar_hosted : isHostChar c = true := (Bool.and_eq_true_iff.mp own).1

theorem isNameChar_small : c.isUpper = false := by
  simpa using (Bool.and_eq_true_iff.mp own).2

theorem isNameChar_ascii : c.toNat < 128 := by
  have hosted := isNameChar_hosted own
  simp only [isHostChar, Bool.or_eq_true, decide_eq_true_eq] at hosted
  rcases hosted with (letter | rfl) | rfl
  · change (c.isUpper || c.isLower || c.isDigit) = true at letter
    rw [isNameChar_small own, Bool.false_or, Bool.or_eq_true] at letter
    rcases letter with lower | digit
    · have toZ : c.toNat ≤ 122 := of_decide_eq_true (Bool.and_eq_true_iff.mp lower).2
      omega
    · have toNine : c.toNat ≤ 57 := of_decide_eq_true (Bool.and_eq_true_iff.mp digit).2
      omega
  · decide
  · decide

end

theorem toLower_of_small {c : Char} (small : c.isUpper = false) : c.toLower = c :=
  dif_neg (of_decide_eq_false small)

theorem decodedBytes_cons {c : Char} (plain : c ≠ '%') (cs : List Char) :
    decodedBytes (c :: cs) = utf8Char c ++ decodedBytes cs := by
  match cs with
  | [] => simp [decodedBytes]
  | [_] => simp [decodedBytes]
  | _ :: _ :: _ => rw [decodedBytes, if_neg plain]

theorem decodedLabel?_eq_some {code label : List Char} (small : ∀ c ∈ code, c.isUpper = false)
    (read : decodedLabel? code = some label) :
    label.all isAscii = false ∧ Punycode.encode label = code := by
  rw [decodedLabel?] at read
  split at read
  · cases read
  · rename_i fits
    simp only [Bool.or_eq_true, Bool.not_eq_true', decide_eq_true_eq, not_or, Bool.not_eq_false,
      Bool.not_eq_true, List.isEmpty_eq_false_iff] at fits
    obtain ⟨⟨⟨ascii, _⟩, named⟩, ended⟩ := fits
    obtain ⟨cs, decoded, own⟩ := Option.bind_eq_some_iff.mp read
    split at own
    · cases own
      have ascii : ∀ c ∈ code, c.toNat < 128 := fun c mem =>
        of_decide_eq_true (List.all_eq_true.mp ascii c mem)
      have written := Punycode.encode_decode ascii small decoded
      refine ⟨Bool.eq_false_iff.mpr fun all => ?_, written⟩
      have basic : ∀ c ∈ label, c.toNat < 128 := fun c mem =>
        of_decide_eq_true (List.all_eq_true.mp all c mem)
      rw [Punycode.encode_basic basic] at written
      split at written
      · exact named written.symm
      · rw [← written, List.getLast?_concat] at ended
        exact ended rfl
    · cases own

/-- A label that says it is encoded has the code of what it is decoded to. -/
theorem asciiLabel_of_labelOf? {p label : List Char} (plain : ∀ c ∈ p, isNameChar c = true)
    (read : labelOf? p = some label) : asciiLabel label = p := by
  rw [labelOf?] at read
  split at read
  · rename_i code cut
    rw [dropStart?] at cut
    split at cut
    · rename_i marked
      obtain ⟨rest, rfl⟩ := List.isPrefixOf_iff_prefix.mp marked
      rw [List.drop_left] at cut
      cases cut
      have small : ∀ c ∈ code, c.isUpper = false := fun c own =>
        isNameChar_small (plain c (List.mem_append_right _ own))
      obtain ⟨other, written⟩ := decodedLabel?_eq_some small read
      rw [asciiLabel, other, written]
      rfl
    · cases cut
  · cases read
    have ascii : ∀ c ∈ p, isAscii c = true := fun c own =>
      decide_eq_true (isNameChar_ascii (plain c own))
    exact if_pos (List.all_eq_true.mpr ascii)

theorem map_asciiLabel {ps labels : List (List Char)}
    (plain : ∀ p ∈ ps, ∀ c ∈ p, isNameChar c = true) (read : ps.mapM labelOf? = some labels) :
    labels.map asciiLabel = ps := by
  induction ps generalizing labels with
  | nil =>
    cases read
    rfl
  | cons p ps ih =>
    simp only [List.mapM_cons, Option.bind_eq_bind, Option.bind_eq_some_iff] at read
    obtain ⟨label, own, rest, others, made⟩ := read
    cases made
    rw [List.map_cons, asciiLabel_of_labelOf? (plain p List.mem_cons_self) own,
      ih (fun p own => plain p (List.mem_cons_of_mem _ own)) others]

section
variable {cs : List Char} (plain : ∀ c ∈ cs, isNameChar c = true)
include plain

theorem decoded_name : decoded cs = cs := by
  have ascii : ∀ c ∈ cs, c.toNat < 128 := fun c own => isNameChar_ascii (plain c own)
  have bytes : decodedBytes cs = cs.map Char.toNat := by
    induction cs with
    | nil => rw [decodedBytes, List.map_nil]
    | cons c cs ih =>
      have notEncoded : c ≠ '%' :=
        isHostChar_apart (isNameChar_hosted (plain c List.mem_cons_self)) (by decide)
      have one : utf8Char c = [c.toNat] := if_pos (ascii c List.mem_cons_self)
      rw [decodedBytes_cons notEncoded, one, List.map_cons,
        ih (fun d own => plain d (List.mem_cons_of_mem c own))
          (fun d own => ascii d (List.mem_cons_of_mem c own))]
      rfl
  rw [decoded, bytes, decodeBytes_ascii ascii]

theorem nameImages?_name : nameImages? cs = some (cs.map fun c => [c]) := by
  induction cs with
  | nil => rfl
  | cons c cs ih =>
    have own := plain c List.mem_cons_self
    have image : nameImage? c = some [c] := by
      rw [nameImage?, if_pos (isNameChar_ascii own), toLower_of_small (isNameChar_small own)]
    have others := ih fun d own => plain d (List.mem_cons_of_mem c own)
    rw [nameImages?] at others ⊢
    rw [List.mapM_cons, image, others]
    rfl

theorem mappedName?_name {name : List Char} (mapped : mappedName? cs = some name) : name = cs := by
  have ascii : ∀ c ∈ cs, c.toNat < 128 := fun c own => isNameChar_ascii (plain c own)
  have flat : (cs.map fun c => [c]).flatten = cs := List.flatMap_singleton' cs
  rw [mappedName?, nameImages?_name plain, Option.bind_some, flat, composed_ascii ascii] at mapped
  simp only at mapped
  split at mapped
  · cases mapped
  · exact (Option.some.inj mapped).symm

theorem asciiDomain?_name {name : List Char} (read : asciiDomain? cs = some name) : name = cs := by
  simp only [asciiDomain?, Option.bind_eq_some_iff] at read
  obtain ⟨mapped, same, labels, read, fits⟩ := read
  rw [mappedName?_name plain same] at read
  split at fits
  · have own : ∀ p ∈ pieces '.' cs, ∀ c ∈ p, isNameChar c = true := by
      intro p piece c letter
      obtain ⟨a, b, split, _⟩ := mem_pieces piece
      exact plain c (by rw [split]; simp [letter])
    rw [← Option.some.inj fits, map_asciiLabel own read, joinWith_pieces]
  · cases fits

theorem readHost_name {h : Host} (named : endsInNumber cs = false) (read : readHost cs = .ok h) :
    h = .domain (String.ofList cs) := by
  have unbracketed : bracketed? cs = none := by
    cases cs with
    | nil => rfl
    | cons c cs =>
      have apart : c ≠ '[' :=
        isHostChar_apart (isNameChar_hosted (plain c List.mem_cons_self)) (by decide)
      rw [bracketed?]
      intro rest same
      exact apart (List.cons.inj same).1
  rw [readHost, unbracketed] at read
  simp only [readDomain, decoded_name plain] at read
  cases own : asciiDomain? cs with
  | none =>
    rw [own] at read
    cases read
  | some name =>
    cases asciiDomain?_name plain own
    rw [own] at read
    simp only [named] at read
    split at read
    · cases read
    · cases read
      rfl

end

end Url

end IdentitySync
