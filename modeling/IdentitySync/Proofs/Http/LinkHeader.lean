import IdentitySync.Http.Link
import IdentitySync.Proofs.Text.Pieces

/-!
Links of a `Link` header, each a URL in angle brackets with its relation behind it. The reader cuts
the header at all commas and its entries at all semicolons, also at those in URLs. The next page is
read as long as URLs of next links have neither and no other link has the text `;rel=next` in it.
-/
namespace IdentitySync.Http
open Text

def urlRanges : List (Nat × Nat) :=
  [(0x21, 0x21), (0x23, 0x3B), (0x3D, 0x3D), (0x3F, 0x5B), (0x5D, 0x5D), (0x5F, 0x5F),
   (0x61, 0x7A), (0x7E, 0x7E)]

/-- The unreserved and the reserved characters of URLs, and the percent sign. -/
def isUrlChar (c : Char) : Bool := inRanges urlRanges c.toNat

def Unseparated (cs : List Char) : Prop := ',' ∉ cs ∧ ';' ∉ cs

instance (cs : List Char) : Decidable (Unseparated cs) := inferInstanceAs (Decidable (_ ∧ _))

/-- Has a part that makes a next link of an entry. -/
def Misleading (cs : List Char) : Prop := ";rel=next".toList <:+: cs

instance (cs : List Char) : Decidable (Misleading cs) := inferInstanceAs (Decidable (_ <:+: _))

structure Link where
  target : String
  relation : String
  quoted : Bool
deriving DecidableEq, Repr

namespace Link

def text (l : Link) : String :=
  "<" ++ l.target ++ ">; rel=" ++ if l.quoted then "\"" ++ l.relation ++ "\"" else l.relation

def header (ls : List Link) : String := ", ".intercalate (ls.map text)

/-- A relation is a name, or it is a URI; names and the schemes of URIs have no separators. -/
structure WellFormed (l : Link) : Prop where
  target : ∀ c ∈ l.target.toList, isUrlChar c = true
  relation : ∀ c ∈ l.relation.toList, isUrlChar c = true
  typed : Unseparated l.relation.toList ∨
    ∃ scheme rest, l.relation.toList = scheme ++ ':' :: rest ∧ Unseparated scheme

structure LeadsTo (l : Link) (n : UInt32) : Prop where
  relation : l.relation = "next"
  page : ∃ location value, Url.parse l.target = .ok location ∧
    location.pairs.lookup "page" = some value ∧ readWord32? value = some n

/-- Can be told from its neighbours and taken apart by its separators. -/
structure Legible (l : Link) : Prop where
  next : l.relation = "next" → Unseparated l.target.toList
  other : l.relation ≠ "next" → ¬Misleading l.target.toList ∧ ¬Misleading l.relation.toList

def page? (l : Link) : Option UInt32 :=
  if l.relation = "next" then pageOf? l.target.toList else none

theorem leadsTo_iff {l : Link} {n : UInt32} : l.LeadsTo n ↔ l.page? = some n := by
  constructor
  · rintro ⟨next, location, value, parsed, found, read⟩
    rw [page?, if_pos next, pageOf?, String.ofList_toList, parsed]
    simp only [found, Option.bind_some, read]
  · intro leads
    rw [page?] at leads
    split at leads
    · rename_i next
      rw [pageOf?, String.ofList_toList] at leads
      cases parsed : Url.parse l.target with
      | error e =>
        rw [parsed] at leads
        cases leads
      | ok location =>
        rw [parsed] at leads
        obtain ⟨value, found, read⟩ := Option.bind_eq_some_iff.mp leads
        exact ⟨next, location, value, parsed, found, read⟩
    · cases leads

end Link

section Bare

theorem not_blank_of_isUrlChar {c : Char} (h : isUrlChar c = true) : isBlank c = false := by
  simp only [isUrlChar, inRanges, urlRanges, List.any_cons, List.any_nil, Bool.or_false,
    Bool.or_eq_true, Bool.and_eq_true, decide_eq_true_eq] at h
  simp only [isBlank, inRanges, blankRanges, List.any_cons, List.any_nil, Bool.or_false,
    Bool.or_eq_false_iff, Bool.and_eq_false_iff, decide_eq_false_iff_not]
  omega

/-- A text without its blanks and quotes, which is what trimming leaves of it. -/
def bare (cs : List Char) : List Char := cs.filter fun c => !isBlank c && c != '"'

@[simp] theorem bare_append (xs ys : List Char) : bare (xs ++ ys) = bare xs ++ bare ys :=
  List.filter_append xs ys

theorem bare_dropWhile {p : Char → Bool} (spare : ∀ c, p c = true → bare [c] = [])
    (cs : List Char) : bare (cs.dropWhile p) = bare cs := by
  induction cs with
  | nil => rfl
  | cons c cs ih =>
    rw [List.dropWhile_cons]
    split
    · rename_i dropped
      rw [ih, ← List.singleton_append, bare_append, spare c dropped, List.nil_append]
    · rfl

theorem bare_dropEnds {p : Char → Bool} (spare : ∀ c, p c = true → bare [c] = [])
    (cs : List Char) : bare ((cs.dropWhile p).reverse.dropWhile p).reverse = bare cs := by
  have turned : ∀ cs : List Char, bare cs.reverse = (bare cs).reverse := fun cs =>
    List.filter_reverse
  rw [turned, bare_dropWhile spare, turned, List.reverse_reverse, bare_dropWhile spare]

theorem bare_trimChars (cs : List Char) : bare (trimChars cs) = bare cs :=
  bare_dropEnds (fun c blank => by simp [bare, blank]) cs

theorem bare_dropQuotes (cs : List Char) : bare (dropQuotes cs) = bare cs :=
  bare_dropEnds (fun c quote => by simp [bare, of_decide_eq_true quote]) cs

theorem notMem_of_isUrlChar {cs : List Char} {d : Char} (alien : isUrlChar d = false)
    (plain : ∀ c ∈ cs, isUrlChar c = true) : d ∉ cs := by
  intro hd
  rw [plain d hd] at alien
  cases alien

theorem bare_of_isUrlChar {cs : List Char} (plain : ∀ c ∈ cs, isUrlChar c = true) :
    bare cs = cs := by
  rw [bare, List.filter_eq_self]
  intro c hc
  have quote : c ≠ '"' := fun same => notMem_of_isUrlChar (by decide) plain (same ▸ hc)
  simp [not_blank_of_isUrlChar (plain c hc), quote]

/-- However it is spaced and quoted, only one parameter gives the relation `next`. -/
theorem bare_of_isNextRelation {param : List Char} (next : isNextRelation param = true) :
    bare param = "rel=next".toList := by
  rw [isNextRelation, dropStart?] at next
  split at next
  · rename_i relation found
    split at found
    · rename_i lead
      obtain ⟨rest, eq⟩ := List.isPrefixOf_iff_prefix.mp lead
      cases found
      rw [← eq, List.drop_left] at next
      have named : bare rest = "next".toList := by
        rw [← bare_dropQuotes, of_decide_eq_true next]
        decide
      rw [← bare_trimChars, ← eq, bare_append, named]
      decide
    · cases found
  · cases next

end Bare

/-- Where a parameter can stand in a link without its blanks and quotes: it is the parameter of the
    link itself, or it is a part of the URL or of the relation. -/
theorem infix_of_append {x y target relation lead name : List Char} (angle : '>' ∉ target)
    (leading : ';' ∉ lead) (own : '>' ∉ lead ++ name)
    (found : x ++ (';' :: (lead ++ name) ++ y) =
      ('<' :: target) ++ '>' :: (';' :: (lead ++ relation))) :
    ';' :: (lead ++ name) <:+: target ∨ ';' :: (lead ++ name) <:+: relation ∨
      relation = name ++ y := by
  have free : '>' ∉ '<' :: target := List.not_mem_cons_of_ne_of_not_mem (by decide) angle
  by_cases before : '>' ∈ x
  · -- It stands behind the URL.
    obtain ⟨a, b, rfl, first⟩ := List.eq_append_cons_of_mem before
    rw [List.append_assoc, List.cons_append] at found
    have behind := ((joined_inj first free).mp found).2
    cases b with
    | nil =>
      rw [List.nil_append, List.cons_append, List.append_assoc] at behind
      exact .inr (.inr (List.append_cancel_left (List.cons.inj behind).2).symm)
    | cons e b =>
      refine .inr (.inl ?_)
      rcases List.append_eq_append_iff.mp (List.cons.inj behind).2 with
        ⟨c, parts, rest⟩ | ⟨c, _, rest⟩
      · cases c with
        | nil => exact ⟨[], y, rest⟩
        | cons d c =>
          obtain ⟨rfl, _⟩ := List.cons.inj rest
          exact absurd (parts ▸ List.mem_append_cons_self) leading
      · exact ⟨c, y, by rw [rest, List.append_assoc]⟩
  · -- The angle that closes the URL stands behind it.
    have closed : '>' ∈ x ++ (';' :: (lead ++ name) ++ y) := found ▸ List.mem_append_cons_self
    have behind : '>' ∈ y := by
      rcases List.mem_append.mp closed with inside | inside
      · exact absurd inside before
      · refine (List.mem_append.mp inside).resolve_left ?_
        exact List.not_mem_cons_of_ne_of_not_mem (by decide) own
    obtain ⟨a, b, rfl, last⟩ := List.eq_append_cons_of_mem behind
    have within : '>' ∉ x ++ (';' :: (lead ++ name) ++ a) := by
      simp only [List.mem_append, List.mem_cons, not_or] at own ⊢
      exact ⟨before, ⟨by decide, own⟩, last⟩
    rw [← List.append_assoc, ← List.append_assoc, List.append_assoc x, joined_inj within free]
      at found
    cases x with
    | nil => cases found.1
    | cons e x => exact .inl ⟨x, a, by rw [List.append_assoc]; exact (List.cons.inj found.1).2⟩

namespace Link

variable {l : Link} {ls : List Link}

def parameter (l : Link) : List Char :=
  " rel=".toList ++ if l.quoted then '"' :: l.relation.toList ++ ['"'] else l.relation.toList

theorem text_toList (l : Link) :
    l.text.toList = ('<' :: l.target.toList ++ ['>']) ++ ';' :: l.parameter := by
  cases quoted : l.quoted <;> simp [text, parameter, quoted]

theorem bare_parameter (wellFormed : l.WellFormed) :
    bare l.parameter = "rel=".toList ++ l.relation.toList := by
  have relation := bare_of_isUrlChar wellFormed.relation
  have lead : bare " rel=".toList = "rel=".toList := by decide
  have quote : bare ['"'] = [] := by decide
  rw [parameter, bare_append, lead]
  split
  · rw [← List.singleton_append, bare_append, bare_append, relation, quote, List.nil_append,
      List.append_nil]
  · rw [relation]

theorem bare_text (wellFormed : l.WellFormed) : bare l.text.toList =
    ('<' :: l.target.toList) ++ '>' :: (';' :: ("rel=".toList ++ l.relation.toList)) := by
  have opening : bare ['<'] = ['<'] := by decide
  have closing : bare ['>', ';'] = ['>', ';'] := by decide
  have parts : l.text.toList = ['<'] ++ l.target.toList ++ ['>', ';'] ++ l.parameter := by
    simp [text_toList]
  rw [parts, bare_append, bare_append, bare_append, opening, closing,
    bare_of_isUrlChar wellFormed.target, bare_parameter wellFormed]
  simp

theorem WellFormed.colon_mem (wellFormed : l.WellFormed) {name rest : List Char} {d : Char}
    (separator : d = ',' ∨ d = ';') (parts : l.relation.toList = name ++ d :: rest) :
    ':' ∈ name := by
  have alien : ∀ {cs}, Unseparated cs → d ∉ cs := by
    rcases separator with rfl | rfl
    · exact fun free => free.1
    · exact fun free => free.2
  have other : d ≠ ':' := by
    rcases separator with rfl | rfl <;> decide
  rcases wellFormed.typed with free | ⟨scheme, tail, typed, free⟩
  · exact absurd (parts ▸ List.mem_append_cons_self) (alien free)
  · rw [typed] at parts
    rcases List.append_eq_append_iff.mp parts with ⟨c, rfl, inside⟩ | ⟨c, rfl, inside⟩
    · cases c with
      | nil => exact absurd (List.cons.inj inside).1.symm other
      | cons e c =>
        obtain ⟨rfl, _⟩ := List.cons.inj inside
        exact List.mem_append_cons_self
    · cases c with
      | nil => exact absurd (List.cons.inj inside).1 other
      | cons e c =>
        obtain ⟨rfl, _⟩ := List.cons.inj inside
        exact absurd List.mem_append_cons_self (alien free)

theorem not_isNextRelation (wellFormed : l.WellFormed) (legible : l.Legible)
    (other : l.relation ≠ "next") {a param b : List Char}
    (parts : l.text.toList = a ++ ';' :: (param ++ b))
    (ends : b = [] ∨ ∃ d rest, b = d :: rest ∧ (d = ',' ∨ d = ';')) :
    isNextRelation param ≠ true := by
  intro next
  have named := bare_of_isNextRelation next
  have found := bare_text wellFormed
  have mark : bare [';'] = [';'] := by decide
  have lead : "rel=next".toList = "rel=".toList ++ "next".toList := by decide
  have whole : ";rel=next".toList = ';' :: ("rel=".toList ++ "next".toList) := by decide
  rw [parts, ← List.singleton_append, bare_append, bare_append, bare_append, mark, named, lead]
    at found
  obtain ⟨quiet, still⟩ := legible.other other
  rcases infix_of_append (notMem_of_isUrlChar (by decide) wellFormed.target) (by decide) (by decide)
    found with inUrl | inRelation | stated
  · rw [← whole] at inUrl
    exact quiet inUrl
  · rw [← whole] at inRelation
    exact still inRelation
  · rcases ends with rfl | ⟨d, rest, rfl, separator⟩
    · rw [show bare [] = [] from rfl, List.append_nil, String.toList_inj] at stated
      exact other stated
    · have kept : bare [d] = [d] := by
        rcases separator with rfl | rfl <;> decide
      rw [← List.singleton_append, bare_append, kept, List.singleton_append] at stated
      exact absurd (wellFormed.colon_mem separator stated) (by decide)

theorem entryPage?_other (wellFormed : l.WellFormed) (legible : l.Legible)
    (other : l.relation ≠ "next") {entry : List Char} (he : entry ∈ pieces ',' l.text.toList) :
    entryPage? entry = none := by
  obtain ⟨a, b, text, _, behind⟩ := mem_pieces he
  have silent : ∀ param ∈ (pieces ';' entry).tail, isNextRelation param ≠ true := by
    intro param hp
    obtain ⟨a', b', split, within⟩ := mem_tail_pieces hp
    refine not_isNextRelation wellFormed legible other
      (a := a ++ a') (b := b' ++ b) (by rw [text, split]; simp) ?_
    rcases within with rfl | ⟨rest, rfl⟩
    · rcases behind with rfl | ⟨rest, rfl⟩
      · exact .inl rfl
      · exact .inr ⟨',', rest, rfl, .inl rfl⟩
    · exact .inr ⟨';', rest ++ b, rfl, .inr rfl⟩
  obtain ⟨target, params, eq⟩ := List.exists_cons_of_ne_nil (pieces_ne_nil ';' entry)
  rw [eq] at silent
  simp only [entryPage?, eq]
  rw [if_neg]
  rw [List.any_eq_true]
  rintro ⟨param, hp, next⟩
  exact silent param hp next

theorem dropAngles_bracketed {cs : List Char} (opening : '<' ∉ cs) (closing : '>' ∉ cs) :
    dropAngles (trimChars ('<' :: cs ++ ['>'])) = cs := by
  have angles : isBlank '<' = false ∧ isBlank '>' = false := by decide
  have trimmed : trimChars ('<' :: cs ++ ['>']) = '<' :: cs ++ ['>'] := by
    simp [trimChars, trimStartChars, trimEndChars, angles]
  have opened : (cs ++ ['>']).dropWhile (· = '<') = cs ++ ['>'] := by
    cases cs with
    | nil => rfl
    | cons c cs =>
      have other : c ≠ '<' := fun same => opening (same ▸ List.mem_cons_self)
      simp [other]
  have closed : cs.reverse.dropWhile (· = '>') = cs.reverse := by
    have free : '>' ∉ cs.reverse := fun inside => closing (List.mem_reverse.mp inside)
    cases eq : cs.reverse with
    | nil => rfl
    | cons c rest =>
      have other : c ≠ '>' := fun same => free (eq ▸ same ▸ List.mem_cons_self)
      simp [other]
  rw [trimmed, dropAngles, List.cons_append, List.dropWhile_cons_of_pos (by decide), opened,
    List.reverse_append, List.reverse_singleton, List.singleton_append,
    List.dropWhile_cons_of_pos (by decide), closed, List.reverse_reverse]

theorem findSome?_next (wellFormed : l.WellFormed) (legible : l.Legible)
    (next : l.relation = "next") :
    (pieces ',' l.text.toList).findSome? entryPage? = pageOf? l.target.toList := by
  obtain ⟨noComma, noSemicolon⟩ := legible.next next
  have target : ',' ∉ '<' :: l.target.toList ++ ['>'] ∧ ';' ∉ '<' :: l.target.toList ++ ['>'] := by
    simp [noComma, noSemicolon]
  have param : Unseparated l.parameter ∧ isNextRelation l.parameter = true := by
    rw [parameter, next]
    cases l.quoted <;> decide
  have whole : ',' ∉ l.text.toList := by
    rw [text_toList, List.mem_append, List.mem_cons]
    rintro (inside | mark | inside)
    · exact target.1 inside
    · cases mark
    · exact param.1.1 inside
  rw [pieces_of_notMem whole, List.findSome?_singleton, entryPage?, text_toList, pieces_append,
    pieces_of_notMem target.2, pieces_of_notMem param.1.2]
  simp only [List.singleton_append, List.any_cons, param.2, Bool.true_or, if_pos]
  rw [dropAngles_bracketed (notMem_of_isUrlChar (by decide) wellFormed.target)
    (notMem_of_isUrlChar (by decide) wellFormed.target)]

theorem findSome?_text (wellFormed : l.WellFormed) (legible : l.Legible) :
    (pieces ',' l.text.toList).findSome? entryPage? = l.page? := by
  by_cases next : l.relation = "next"
  · rw [page?, if_pos next, findSome?_next wellFormed legible next]
  · rw [page?, if_neg next, List.findSome?_eq_none_iff]
    exact fun entry => entryPage?_other wellFormed legible next

theorem pieces_blank (sep : Char) (other : ' ' ≠ sep) (cs : List Char) :
    ∃ p ps, pieces sep cs = p :: ps ∧ pieces sep (' ' :: cs) = (' ' :: p) :: ps := by
  obtain ⟨p, ps, eq⟩ := List.exists_cons_of_ne_nil (pieces_ne_nil sep cs)
  exact ⟨p, ps, eq, by simp [pieces, other, eq]⟩

theorem entryPage?_blank (cs : List Char) : entryPage? (' ' :: cs) = entryPage? cs := by
  obtain ⟨target, params, own, spaced⟩ := pieces_blank ';' (by decide) cs
  have blank : isBlank ' ' = true := by decide
  have trimmed : trimChars (' ' :: target) = trimChars target := by
    simp [trimChars, trimStartChars, blank]
  simp only [entryPage?, own, spaced, trimmed]

theorem findSome?_blank (cs : List Char) :
    (pieces ',' (' ' :: cs)).findSome? entryPage? = (pieces ',' cs).findSome? entryPage? := by
  obtain ⟨entry, entries, own, spaced⟩ := pieces_blank ',' (by decide) cs
  rw [own, spaced, List.findSome?_cons, List.findSome?_cons, entryPage?_blank]

theorem findSome?_page?_filter (ls : List Link) :
    (ls.filter fun l => l.relation = "next").findSome? page? = ls.findSome? page? := by
  induction ls with
  | nil => rfl
  | cons l ls ih =>
    by_cases next : l.relation = "next" <;> simp [List.findSome?_cons, page?, next, ih]

theorem nextPage?_header (wellFormed : ∀ l ∈ ls, l.WellFormed) (legible : ∀ l ∈ ls, l.Legible) :
    nextPage? (header ls) = ls.findSome? page? := by
  induction ls with
  | nil => rfl
  | cons l ls ih =>
    have first := findSome?_text (wellFormed l List.mem_cons_self) (legible l List.mem_cons_self)
    have others := ih (fun k hk => wellFormed k (List.mem_cons_of_mem _ hk))
      fun k hk => legible k (List.mem_cons_of_mem _ hk)
    cases ls with
    | nil =>
      rw [nextPage?, header, List.map_singleton, String.intercalate_singleton, first,
        List.findSome?_singleton]
    | cons k ls =>
      have joined : (header (l :: k :: ls)).toList =
          l.text.toList ++ ',' :: ' ' :: (header (k :: ls)).toList := by
        simp [header]
      rw [nextPage?, joined, pieces_append, List.findSome?_append, first, findSome?_blank]
      rw [nextPage?] at others
      rw [others, ← List.singleton_append (l := k :: ls), List.findSome?_append,
        List.findSome?_singleton]

/-- From legible links the page is read that the first usable next link leads to, and none when
    there is no such link. Links of other relations could as well be left out. -/
theorem next_page_of_legible_links {ls : List Link} (wellFormed : ∀ l ∈ ls, l.WellFormed)
    (legible : ∀ l ∈ ls, l.Legible) :
    (∀ n, nextPage? (header ls) = some n ↔ ∃ before l after, ls = before ++ l :: after ∧
      l.LeadsTo n ∧ ∀ k ∈ before, ∀ m, ¬k.LeadsTo m) ∧
    (nextPage? (header ls) = none ↔ ∀ l ∈ ls, ∀ n, ¬l.LeadsTo n) ∧
    nextPage? (header (ls.filter fun l => l.relation = "next")) = nextPage? (header ls) := by
  have unusable : ∀ l : Link, l.page? = none ↔ ∀ n, ¬l.LeadsTo n := by
    intro l
    simp only [leadsTo_iff, Option.eq_none_iff_forall_ne_some]
  have read := nextPage?_header wellFormed legible
  refine ⟨fun n => ?_, ?_, ?_⟩
  · rw [read, List.findSome?_eq_some_iff]
    simp only [leadsTo_iff, unusable]
  · rw [read, List.findSome?_eq_none_iff]
    simp only [unusable]
  · have kept : ∀ l ∈ ls.filter fun l => l.relation = "next", l ∈ ls := fun l hl =>
      (List.mem_filter.mp hl).1
    rw [read, nextPage?_header (fun l hl => wellFormed l (kept l hl))
      fun l hl => legible l (kept l hl)]
    exact findSome?_page?_filter ls

theorem wellFormed_of_name {l : Link} (target : l.target.toList.all isUrlChar = true)
    (relation : l.relation.toList.all isUrlChar = true) (name : Unseparated l.relation.toList) :
    l.WellFormed := ⟨List.all_eq_true.mp target, List.all_eq_true.mp relation, .inl name⟩

def agentsPage : String := "https://acme.freshservice.com/api/v2/agents?"

def mixed : List Link :=
  [⟨agentsPage ++ "ids=1,2;3&page=7", "prev", true⟩, ⟨agentsPage ++ "page=last", "next", true⟩,
    ⟨agentsPage ++ "page=3", "next", false⟩]

theorem mixed_next_page : nextPage? (header mixed) = some 3 := by
  have wellFormed : ∀ l ∈ mixed, l.WellFormed := by
    have named : ∀ l ∈ mixed, l.target.toList.all isUrlChar = true ∧
        l.relation.toList.all isUrlChar = true ∧ Unseparated l.relation.toList := by
      decide +kernel
    exact fun l hl => wellFormed_of_name (named l hl).1 (named l hl).2.1 (named l hl).2.2
  have legible : ∀ l ∈ mixed, l.Legible := by
    have told : ∀ l ∈ mixed, (l.relation = "next" → Unseparated l.target.toList) ∧
        (l.relation ≠ "next" → ¬Misleading l.target.toList ∧ ¬Misleading l.relation.toList) := by
      decide +kernel
    exact fun l hl => ⟨(told l hl).1, (told l hl).2⟩
  refine ((next_page_of_legible_links wellFormed legible).1 3).mpr
    ⟨mixed.take 2, ⟨agentsPage ++ "page=3", "next", false⟩, [], rfl, ?_, ?_⟩
  · rw [leadsTo_iff]
    decide +kernel
  · have unusable : ∀ k ∈ mixed.take 2, k.page? = none := by decide +kernel
    intro k hk m leads
    rw [leadsTo_iff, unusable k hk] at leads
    cases leads

/-- A comma in the URL of a next link hides it, and a parameter in the URL of another link makes a
    next link of it. -/
theorem separators_in_urls_mislead :
    let next : Link := ⟨agentsPage ++ "ids=1,2&page=3", "next", true⟩
    let prev : Link := ⟨agentsPage ++ "page=9;rel=next;x", "prev", true⟩
    next.WellFormed ∧ next.LeadsTo 3 ∧ nextPage? (header [next]) = none ∧
      prev.WellFormed ∧ (∀ n, ¬prev.LeadsTo n) ∧ nextPage? (header [prev]) = some 9 := by
  intro next prev
  refine ⟨wellFormed_of_name ?_ ?_ ?_, ?_, by decide +kernel, wellFormed_of_name ?_ ?_ ?_,
    fun n leads => ?_, by decide +kernel⟩
  · decide +kernel
  · decide +kernel
  · decide +kernel
  · rw [leadsTo_iff]
    decide +kernel
  · decide +kernel
  · decide +kernel
  · decide +kernel
  · exact absurd leads.relation (by decide)

end Link

end IdentitySync.Http
