import IdentitySync.Desk.Client
import IdentitySync.Proofs.Desk.Answer
import IdentitySync.Proofs.Text.Numeral
import IdentitySync.Proofs.Url.Path

/-!
Where requests go. An account without a base of its own has the host of its subdomain, and the host
decides whether there is an address: a client that could be made for it reaches every place of the
interface.
-/
namespace IdentitySync.Desk
open Text Url

def isPathChar (c : Char) : Bool := c.isLower || isDigit c || c = '_' || c = '/'

theorem isPathChar_range {c : Char} (own : isPathChar c = true) :
    47 ≤ c.toNat ∧ c.toNat ≤ 57 ∨ 95 ≤ c.toNat ∧ c.toNat ≤ 122 := by
  rw [isPathChar, Bool.or_eq_true, Bool.or_eq_true, Bool.or_eq_true, decide_eq_true_eq,
    decide_eq_true_eq] at own
  rcases own with ((lower | digit) | rfl) | rfl
  · obtain ⟨fromA, toZ⟩ := Bool.and_eq_true_iff.mp lower
    have fromA : 97 ≤ c.toNat := of_decide_eq_true fromA
    have toZ : c.toNat ≤ 122 := of_decide_eq_true toZ
    omega
  · have range := isDigit_range digit
    omega
  · decide
  · decide

section
variable {cs : List Char} (own : ∀ c ∈ cs, isPathChar c = true)
include own

theorem notMem_of_pathChars {d : Char} (other : isPathChar d = false) : d ∉ cs := by
  intro mem
  rw [own d mem] at other
  cases other

theorem plainSegment_of_pathChars : PlainSegment cs := by
  have small : cs.map Char.toLower = cs := by
    refine (List.map_congr_left fun c mem => dif_neg fun upper => ?_).trans (List.map_id cs)
    obtain ⟨fromA, toZ⟩ : 65 ≤ c.toNat ∧ c.toNat ≤ 90 := upper
    have range := isPathChar_range (own c mem)
    omega
  have dot : '.' ∉ cs := notMem_of_pathChars own (by decide)
  have percent : '%' ∉ cs := notMem_of_pathChars own (by decide)
  refine ⟨⟨?_, ?_⟩, ?_⟩
  · rw [isDoubleDot, small]
    simp only [Bool.or_eq_false_iff, decide_eq_false_iff_not]
    refine ⟨⟨⟨?_, ?_⟩, ?_⟩, ?_⟩ <;> rintro rfl <;> simp at dot percent
  · rw [isSingleDot, small]
    simp only [Bool.or_eq_false_iff, decide_eq_false_iff_not]
    refine ⟨?_, ?_⟩ <;> rintro rfl <;> simp at dot percent
  · have single : encodeWith inPath cs = cs.flatMap fun c => [c] := by
      refine List.flatMap_congr fun c mem => if_neg ?_
      have range := isPathChar_range (own c mem)
      rintro (control | above | escaped)
      · omega
      · omega
      · have others : ∀ d ∈ inPath, isPathChar d = false := by
          simpa using List.any_eq_false.mp (by decide : inPath.any isPathChar = false)
        exact notMem_of_pathChars own (others c escaped) mem
    rw [single, List.flatMap_singleton']

theorem plainPath_of_pathChars : PlainPath cs := by
  refine ⟨fun s piece => ?_, notMem_of_pathChars own (by decide), fun c mem => ?_, fun c mem => ?_⟩
  · obtain ⟨a, b, split, _⟩ := mem_pieces piece
    exact plainSegment_of_pathChars fun c mem => own c (by rw [split]; simp [mem])
  · have range := isPathChar_range (own c mem)
    rw [isControlOrSpace, decide_eq_false_iff_not]
    omega
  · have range := isPathChar_range (own c mem)
    have question : c ≠ '?' := fun same => by rw [same] at range; revert range; decide
    have hash : c ≠ '#' := fun same => by rw [same] at range; revert range; decide
    simp [startsTail, question, hash]

end

theorem Endpoint.path_plain (e : Endpoint) : PlainPath e.path.toList := by
  have ids : ∀ id : UInt64, (idSegment id).toList.all isPathChar = true := by
    intro id
    rw [idSegment, numeral_toList, List.all_eq_true]
    intro c mem
    rw [isPathChar, isDigit_of_mem_digits mem, Bool.or_true, Bool.true_or, Bool.true_or]
  have all : e.path.toList.all isPathChar = true := by
    unfold Endpoint.path
    cases e <;> simp only [String.toList_append, List.all_append, ids, Bool.and_true] <;> decide
  exact plainPath_of_pathChars (List.all_eq_true.mp all)

theorem isLower_toLower {c : Char} (upper : c.val ≥ 'A'.val ∧ c.val ≤ 'Z'.val) :
    c.toLower.isLower = true := by
  have shifted : c.toLower.val = c.val + 32 := congrArg Char.val (dif_pos upper)
  obtain ⟨fromA, toZ⟩ : 65 ≤ c.val.toNat ∧ c.val.toNat ≤ 90 := upper
  have sum : (c.val + 32).toNat = c.val.toNat + 32 := by
    rw [UInt32.toNat_add]
    change (c.val.toNat + 32) % 4294967296 = _
    omega
  have small : 97 ≤ c.toLower.val.toNat ∧ c.toLower.val.toNat ≤ 122 := by
    rw [shifted, sum]
    omega
  exact Bool.and_eq_true_iff.mpr ⟨decide_eq_true small.1, decide_eq_true small.2⟩

theorem isSubdomainChar_toLower {c : Char} (h : isSubdomainChar c = true) :
    isSubdomainChar c.toLower = true := by
  by_cases upper : c.val ≥ 'A'.val ∧ c.val ≤ 'Z'.val
  · change (c.toLower.isUpper || c.toLower.isLower || c.toLower.isDigit || _) = true
    rw [isLower_toLower upper, Bool.or_true, Bool.true_or, Bool.true_or]
  · have same : c.toLower = c := dif_neg upper
    rw [same]
    exact h

theorem subdomainOf_plain {domain subdomain : String}
    (read : subdomainOf domain = .ok subdomain) :
    ∀ c ∈ subdomain.toList, isSubdomainChar c = true := by
  rw [subdomainOf] at read
  split at read
  · rename_i plain
    rw [Bool.and_eq_true, List.all_eq_true] at plain
    intro c hc
    rw [← Except.ok.inj read, String.toList_ofList] at hc
    obtain ⟨c, own, rfl⟩ := List.mem_map.mp hc
    exact isSubdomainChar_toLower (plain.2 c own)
  · cases read

theorem AccountDraft.build_eq_ok {d : AccountDraft} {a : Account} (built : d.build = .ok a) :
    ∃ domain, d.domain = some domain ∧ subdomainOf domain = .ok a.subdomain ∧
      a.apiBase = d.apiBase ∧ a.check = .ok () := by
  rw [AccountDraft.build] at built
  split at built
  · cases built
  · cases built
  · rename_i domain _ given
    split at built
    · cases built
    · rename_i subdomain read
      simp only at built
      generalize checked : Account.check _ = outcome at built
      cases outcome with
      | error e => cases built
      | ok _ =>
        cases built
        exact ⟨domain, given, read, rfl, checked⟩

theorem Client.new_baseUrl {a : Account} {c : Client} (made : Client.new a = .ok c) :
    c.baseUrl = a.baseUrl ∧ ∃ l, Url.parse a.baseUrl = .ok l := by
  rw [Client.new] at made
  split at made
  · cases made
  · rename_i l parsed
    cases made
    exact ⟨rfl, l, parsed⟩

theorem hosted_text (subdomain behind : String) :
    "https://" ++ subdomain ++ "." ++ deskHost ++ "/" ++ behind = String.ofList
      ("https://".toList ++ ((subdomain ++ "." ++ deskHost).toList ++ '/' :: behind.toList)) := by
  apply String.toList_inj.mp
  simp

theorem hostChars_of_subdomain {subdomain : String}
    (plain : ∀ c ∈ subdomain.toList, isSubdomainChar c = true) :
    ∀ c ∈ (subdomain ++ "." ++ deskHost).toList, isHostChar c = true := by
  intro c hc
  simp only [String.toList_append, List.mem_append] at hc
  rcases hc with (own | dot) | host
  · have letter := plain c own
    rw [isSubdomainChar] at letter
    rw [isHostChar, letter, Bool.true_or]
  · exact List.all_eq_true.mp (by decide : (".".toList.all isHostChar) = true) c dot
  · exact List.all_eq_true.mp (by decide : (deskHost.toList.all isHostChar) = true) c host

theorem host_ne_nil (subdomain : String) : (subdomain ++ "." ++ deskHost).toList ≠ [] := by
  simp only [String.toList_append]
  exact List.append_ne_nil_of_right_ne_nil _ (by decide)

theorem built_client_reaches {d : AccountDraft} {a : Account} {c : Client} (built : d.build = .ok a)
    (hosted : d.apiBase = none) (made : Client.new a = .ok c) (e : Endpoint) : c.Reaches e := by
  obtain ⟨domain, _, read, own, _⟩ := AccountDraft.build_eq_ok built
  obtain ⟨based, l, parsed⟩ := Client.new_baseUrl made
  have base : a.baseUrl = "https://" ++ a.subdomain ++ "." ++ deskHost ++ "/" ++ "api/v2" := by
    rw [Account.baseUrl, own, hosted]
    simp only [String.append_assoc]
    rfl
  have plain := hostChars_of_subdomain (subdomainOf_plain read)
  have named := host_ne_nil a.subdomain
  have address : c.address e =
      "https://" ++ a.subdomain ++ "." ++ deskHost ++ "/" ++ ("api/v2/" ++ e.path) := by
    rw [Client.address, based, base]
    simp only [String.append_assoc]
    rfl
  have behind : Visible ("api/v2/" ++ e.path).toList := by
    rw [String.toList_append, visible_append_iff]
    exact ⟨by decide, e.path_plain.visible⟩
  rw [base, hosted_text, parse_hosted plain named (by decide)] at parsed
  rw [Client.Reaches, address, hosted_text, parse_hosted plain named behind]
  cases host : readHost (a.subdomain ++ "." ++ deskHost).toList with
  | error e =>
    rw [host] at parsed
    cases parsed
  | ok h => exact ⟨_, rfl⟩

def acmeAccount : Account := ⟨"key", "acme", none, false, none, .standard⟩

theorem acme_reaches (e : Endpoint) : acme.Reaches e := by
  have built : (⟨some "key", some "acme", none, false, none, .standard⟩ : AccountDraft).build =
      .ok acmeAccount := by decide +kernel
  have made : Client.new acmeAccount = .ok acme := by decide +kernel
  exact built_client_reaches built rfl made e

end IdentitySync.Desk
