import IdentitySync.Proofs.Url.Path

/-!
Addresses that paths are put behind, as text and with a slash between. They lead to the place with
that path behind the path of the address either for every path or for none; never when the address
has a query or a fragment, and otherwise whenever it ends in a segment that is in plain sight.
-/
namespace IdentitySync.Url
open Text

/-- What has scheme, host and port of a location and a path behind its path, and nothing else. -/
structure Location.Extends (l m : Location) (path : String) : Prop where
  scheme : m.scheme = l.scheme
  host : m.host = l.host
  port : m.port = l.port
  path : m.path = dropEndWhile (· = '/') l.path ++ "/" ++ path
  query : m.query = none
  fragment : m.fragment = none

instance (l m : Location) (path : String) : Decidable (l.Extends m path) :=
  decidable_of_iff (m.scheme = l.scheme ∧ m.host = l.host ∧ m.port = l.port ∧
    m.path = dropEndWhile (· = '/') l.path ++ "/" ++ path ∧ m.query = none ∧ m.fragment = none)
    ⟨fun ⟨scheme, host, port, path, query, fragment⟩ =>
      ⟨scheme, host, port, path, query, fragment⟩,
      fun h => ⟨h.scheme, h.host, h.port, h.path, h.query, h.fragment⟩⟩

/-- Whether the text with a slash and a path behind it is an address of that path at a location. -/
def Leads (text : String) (l : Location) (path : String) : Prop :=
  ∃ m, parse (text ++ "/" ++ path) = .ok m ∧ l.Extends m path

instance (text : String) (l : Location) (path : String) : Decidable (Leads text l path) :=
  match parsed : parse (text ++ "/" ++ path) with
  | .error e => .isFalse fun ⟨_, own, _⟩ => by rw [parsed] at own; cases own
  | .ok m => decidable_of_iff (l.Extends m path)
      ⟨fun h => ⟨m, parsed, h⟩, fun ⟨_, own, h⟩ => by rw [parsed] at own; cases own; exact h⟩

/-- How an address is read in front of a slash: `own` is its authority, and `behind` is the rest
    with the blanks at the end, which are dropped only when nothing follows. -/
structure Fronts (cs : List Char) (l : Location) (own behind : List Char) : Prop where
  inside : ∀ c ∈ own, endsAuthority .special c = false
  stop : ∀ c ∈ behind.head?, endsAuthority .special c = true
  reads : ∀ y, Visible y → y.head? = some '/' → parse (String.ofList (cs ++ y)) =
    (readAuthority l.scheme own).map fun h =>
      finish l.scheme h.userInfo h.host h.port (readPath .special) (behind ++ y)
  untailed : Untailed behind → l.query = none ∧ l.fragment = none
  alone : opened cs = cleaned (String.ofList cs) → own ++ behind <:+ opened cs ∧
    parse (String.ofList cs) = (readAuthority l.scheme own).map fun h =>
      finish l.scheme h.userInfo h.host h.port (readPath .special) behind

theorem exists_fronts {cs : List Char} {l : Location} (parsed : parse (String.ofList cs) = .ok l)
    (special : schemeKind l.scheme = .special) : ∃ own behind, Fronts cs l own behind := by
  obtain ⟨rest, suffix, read, goesOn⟩ := parse_continued parsed special
  obtain ⟨blanks, whole⟩ := opened_eq cs
  obtain ⟨own, behind, parts, inside, stop⟩ := authority_parts (rest ++ blanks)
  refine ⟨own, behind, inside, stop, fun y visible slash => ?_, fun none => ?_, fun same => ?_⟩
  · have more : y ≠ [] := by
      rintro rfl
      cases slash
    have continued : cleaned (String.ofList (cs ++ y)) =
        cleaned (String.ofList cs) ++ (blanks ++ y) := by
      rw [cleaned_append cs visible more, whole, List.append_assoc]
    have stop' : ∀ c ∈ (behind ++ y).head?, endsAuthority .special c = true := by
      intro c first
      cases behind with
      | nil =>
        rw [List.nil_append, slash] at first
        cases first
        rfl
      | cons d behind => exact stop c first
    rw [goesOn _ _ continued, ← List.append_assoc, parts, List.append_assoc,
      readAuthority_append inside stop' special]
  · have tailless : Untailed (rest ++ blanks) := by
      rw [parts]
      exact untailed_append_iff.mpr ⟨untailed_of_authority inside, none⟩
    exact (readAuthority_tail_iff special read).mpr (untailed_append_iff.mp tailless).1
  · have noBlanks : blanks = [] := by
      rw [whole] at same
      exact List.append_right_eq_self.mp same
    rw [noBlanks, List.append_nil] at parts whole
    rw [← parts, whole, parsed, ← read, parts, readAuthority_append inside stop special]
    exact ⟨parts ▸ suffix, rfl⟩

section
variable {cs own behind : List Char} {l base : Location}

theorem Fronts.slashed (h : Fronts cs base own behind) (none : Untailed behind) :
    ∀ c ∈ behind.head?, isSlash .special c = true := by
  intro c first
  have ends := h.stop c first
  have mark : startsTail c = false := none c (List.mem_of_head? first)
  rwa [endsAuthority, Bool.or_assoc, ← startsTail, mark, Bool.or_false] at ends

theorem text_behind (cs : List Char) (path : String) :
    String.ofList cs ++ "/" ++ path = String.ofList (cs ++ '/' :: path.toList) := by
  apply String.toList_inj.mp
  simp

/-- Where an address leads with a path behind it does not depend on the path. -/
theorem Fronts.leads_iff (h : Fronts cs base own behind) (same : base.scheme = l.scheme)
    {path : String} (plain : PlainPath path.toList) : Leads (String.ofList cs) l path ↔
      ∃ a, readAuthority base.scheme own = .ok a ∧ a.host = l.host ∧ a.port = l.port ∧
        Untailed behind ∧ String.ofList (folder behind) = dropEndWhile (· = '/') l.path := by
  have read := h.reads ('/' :: path.toList)
    (List.forall_mem_cons.mpr ⟨by decide, plain.visible⟩) rfl
  have tailless : Untailed (behind ++ '/' :: path.toList) ↔ Untailed behind := by
    rw [untailed_append_iff]
    exact and_iff_left (List.forall_mem_cons.mpr ⟨by decide, plain.untailed⟩)
  have placed_iff : Untailed behind →
      (String.ofList (readPath .special (behind ++ '/' :: path.toList)) =
        dropEndWhile (· = '/') l.path ++ "/" ++ path ↔
          String.ofList (folder behind) = dropEndWhile (· = '/') l.path) := by
    intro none
    rw [readPath_behind (h.slashed none) plain, ← text_behind]
    constructor
    · intro joined
      simpa using joined
    · intro own
      rw [own]
  rw [Leads, text_behind, read]
  cases hosted : readAuthority base.scheme own with
  | error e =>
    constructor
    · rintro ⟨_, made, _⟩
      cases made
    · rintro ⟨_, made, _⟩
      cases made
  | ok a =>
    constructor
    · rintro ⟨m, made, there⟩
      cases made
      have none := tailless.mp (finish_tail_iff.mp ⟨there.query, there.fragment⟩)
      have placed := there.path
      rw [finish_path (tailless.mpr none)] at placed
      exact ⟨a, rfl, there.host, there.port, none, (placed_iff none).mp placed⟩
    · rintro ⟨a, made, host, port, none, placed⟩
      cases made
      obtain ⟨query, fragment⟩ := finish_tail_iff.mpr (tailless.mpr none)
      refine ⟨_, rfl, same, host, port, ?_, query, fragment⟩
      rw [finish_path (tailless.mpr none)]
      exact (placed_iff none).mpr placed

theorem slashes_parts (text : String) :
    ∃ cs n, text = String.ofList (cs ++ List.replicate n '/') ∧
      dropEndWhile (· = '/') text = String.ofList cs := by
  have parts : text.toList.rdropWhile (· = '/') ++ text.toList.rtakeWhile (· = '/') = text.toList :=
    List.rdropWhile_append_rtakeWhile
  have slashes : text.toList.rtakeWhile (· = '/') =
      List.replicate (text.toList.rtakeWhile (· = '/')).length '/' :=
    List.eq_replicate_of_mem fun c own => by simpa using List.mem_rtakeWhile_imp own
  refine ⟨text.toList.rdropWhile (· = '/'), (text.toList.rtakeWhile (· = '/')).length, ?_, rfl⟩
  rw [← slashes, parts, String.ofList_toList]

theorem dropEndWhile_slashes (cs : List Char) (n : Nat) :
    dropEndWhile (· = '/') (String.ofList (cs ++ List.replicate n '/')) =
      dropEndWhile (· = '/') (String.ofList cs) := by
  have slashes : ∀ d ∈ List.replicate n '/', decide (d = '/') = true := fun d own => by
    simpa using List.eq_of_mem_replicate own
  rw [dropEndWhile, dropEndWhile, String.toList_ofList, String.toList_ofList]
  exact congrArg String.ofList (rdropWhile_append_dropped slashes)

theorem FullSegment.kept {c : Char} {s : List Char} (h : FullSegment c s) (front : List Char) :
    dropEndWhile (· = '/') (String.ofList (front ++ c :: s)) = String.ofList (front ++ c :: s) := by
  obtain ⟨others, last, rfl⟩ : ∃ others last, s = others ++ [last] :=
    ⟨_, _, (List.dropLast_append_getLast h.filled).symm⟩
  have other : last ≠ '/' := fun same => by cases same ▸ h.inner last (by simp)
  rw [dropEndWhile, String.toList_ofList, ← List.cons_append, ← List.append_assoc]
  exact congrArg String.ofList (List.rdropWhile_concat_neg _ _ last (by simpa using other))

variable {n : Nat} (parsed : parse (String.ofList cs) = .ok base)
  (slashed : parse (String.ofList (cs ++ List.replicate n '/')) = .ok l)

theorem visible_slashes (n : Nat) : Visible (List.replicate n '/') := (plainPath_slashes n).visible

include parsed slashed

theorem slashes_scheme : base.scheme = l.scheme := by
  cases n with
  | zero =>
    rw [List.replicate_zero, List.append_nil, parsed] at slashed
    cases slashed
    rfl
  | succ n =>
    obtain ⟨rest, split⟩ := parse_scheme parsed
    obtain ⟨rest', split'⟩ := parse_scheme slashed
    obtain ⟨blanks, whole⟩ := opened_eq cs
    rw [cleaned_append cs (visible_slashes _) (by simp), whole, List.append_assoc,
      splitScheme?_append split] at split'
    exact (Prod.mk.inj (Option.some.inj split')).1

theorem Fronts.tailless (h : Fronts cs base own behind) (whole : Untailed behind) :
    l.query = none ∧ l.fragment = none := by
  cases n with
  | zero =>
    rw [List.replicate_zero, List.append_nil, parsed] at slashed
    cases slashed
    exact h.untailed whole
  | succ n =>
    rw [h.reads _ (visible_slashes _) rfl] at slashed
    obtain ⟨a, _, rfl⟩ := map_eq_ok_iff.mp slashed
    exact finish_tail_iff.mpr
      (untailed_append_iff.mpr ⟨whole, (plainPath_slashes (n + 1)).untailed⟩)

end

theorem Fronts.reads_slashes {cs own behind : List Char} {base : Location}
    (h : Fronts cs base own behind) (noBlanks : opened cs = cleaned (String.ofList cs)) (n : Nat) :
    parse (String.ofList (cs ++ List.replicate n '/')) =
      (readAuthority base.scheme own).map fun a => finish base.scheme a.userInfo a.host a.port
        (readPath .special) (behind ++ List.replicate n '/') := by
  cases n with
  | zero =>
    rw [List.replicate_zero, List.append_nil, List.append_nil]
    exact (h.alone noBlanks).2
  | succ n => exact h.reads _ (visible_slashes _) rfl

/-- A text that ends, slashes aside, in a segment that stays there and is visible. -/
inductive Tidy : String → Prop where
  | intro {front s : List Char} {c : Char} {n : Nat} (full : FullSegment c s)
      (visible : Visible s) : Tidy (String.ofList (front ++ c :: s ++ List.replicate n '/'))

theorem FullSegment.visible {c : Char} {s : List Char} (h : FullSegment c s)
    (visible : Visible s) : Visible (c :: s) := by
  have slash := h.slash
  simp only [isSlash, Bool.or_eq_true, Bool.and_eq_true, decide_eq_true_eq] at slash
  refine List.forall_mem_cons.mpr ⟨?_, visible⟩
  rcases slash with rfl | ⟨_, rfl⟩ <;> decide

theorem FullSegment.closed {front s behind : List Char} {c : Char} (h : FullSegment c s)
    (slashed : ∀ d ∈ behind.head?, isSlash .special d = true)
    (suffix : behind <:+ front ++ c :: s) : Closed behind := by
  rcases List.suffix_or_suffix_of_suffix suffix (List.suffix_append front (c :: s)) with
    inside | ⟨before, rfl⟩
  · rcases List.suffix_cons_iff.mp inside with rfl | rest
    · have alone : Closed ([] ++ c :: s) := .segment (fun d none => by cases none) h
      exact alone
    · cases behind with
      | nil => exact .empty
      | cons d behind =>
        have other := h.inner d (rest.subset List.mem_cons_self)
        rw [slashed d rfl] at other
        cases other
  · refine .segment (fun d first => slashed d ?_) h
    cases before with
    | nil => cases first
    | cons e before => exact first

section
variable {text : String} {l base : Location}
  (parsed : parse (dropEndWhile (· = '/') text) = .ok base) (parsed' : parse text = .ok l)
  (special : schemeKind l.scheme = .special)
include parsed parsed' special

/-- An address leads everywhere or nowhere. -/
theorem leads_iff_leads {path path' : String} (plain : PlainPath path.toList)
    (plain' : PlainPath path'.toList) :
    Leads (dropEndWhile (· = '/') text) l path ↔ Leads (dropEndWhile (· = '/') text) l path' := by
  obtain ⟨cs, n, rfl, trimmed⟩ := slashes_parts text
  rw [trimmed] at parsed ⊢
  have same := slashes_scheme parsed parsed'
  obtain ⟨own, behind, fronts⟩ := exists_fronts parsed (same ▸ special)
  have there := fronts.leads_iff same plain
  have there' := fronts.leads_iff same plain'
  exact there.trans there'.symm

theorem tailless_of_leads {path : String} (plain : PlainPath path.toList)
    (leads : Leads (dropEndWhile (· = '/') text) l path) :
    l.query = none ∧ l.fragment = none := by
  obtain ⟨cs, n, rfl, trimmed⟩ := slashes_parts text
  rw [trimmed] at parsed leads
  have same := slashes_scheme parsed parsed'
  obtain ⟨own, behind, fronts⟩ := exists_fronts parsed (same ▸ special)
  obtain ⟨_, _, _, _, none, _⟩ := (fronts.leads_iff same plain).mp leads
  exact fronts.tailless parsed parsed' none

theorem Tidy.leads (tidy : Tidy text) (noQuery : l.query = none) (noFragment : l.fragment = none)
    {path : String} (plain : PlainPath path.toList) :
    Leads (dropEndWhile (· = '/') text) l path := by
  obtain @⟨front, s, c, n, full, visible⟩ := tidy
  rw [dropEndWhile_slashes, full.kept] at parsed ⊢
  have same := slashes_scheme parsed parsed'
  obtain ⟨own, behind, fronts⟩ := exists_fronts parsed (same ▸ special)
  have shown := full.visible visible
  have whole : opened (front ++ c :: s) = opened front ++ c :: s := opened_append front shown
  have noBlanks : opened (front ++ c :: s) = cleaned (String.ofList (front ++ c :: s)) := by
    rw [whole, cleaned_append front shown (List.cons_ne_nil _ _)]
  rw [fronts.reads_slashes noBlanks] at parsed'
  obtain ⟨a, hosted, rfl⟩ := map_eq_ok_iff.mp parsed'
  have tailless := finish_tail_iff.mp ⟨noQuery, noFragment⟩
  obtain ⟨untailed, _⟩ := untailed_append_iff.mp tailless
  have suffix : behind <:+ opened front ++ c :: s := by
    rw [← whole]
    exact (List.suffix_append own behind).trans (fronts.alone noBlanks).1
  have closed := full.closed (fronts.slashed untailed) suffix
  refine (fronts.leads_iff same plain).mpr ⟨a, hosted, rfl, rfl, untailed, ?_⟩
  rw [finish_path tailless, ← closed.readPath_slashes n, dropEndWhile, String.toList_ofList]
  rfl

end

end IdentitySync.Url
