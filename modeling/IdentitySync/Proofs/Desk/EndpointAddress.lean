import IdentitySync.Proofs.Desk.Acceptance
import IdentitySync.Proofs.Desk.Sent
import IdentitySync.Proofs.Url.AsciiName
import IdentitySync.Proofs.Url.BaseAddress

/-!
Where the endpoints of an account are. Paths are put behind the base of the account as text, so what
counts is where that text goes on, and not only where the base leads by itself. Without a base of
its own an account has its endpoints on the host of its subdomain. With one it has all of them
behind the path of the base or none, and none when the base has a query or a fragment.
-/
namespace IdentitySync.Desk
open Text Url

/-- Whether the address of an endpoint leads to it at a location. -/
def Client.Finds (c : Client) (l : Location) (e : Endpoint) : Prop :=
  ∃ m, Url.parse (c.address e) = .ok m ∧ l.Extends m e.path

def deskBase (subdomain : String) : String :=
  "https://" ++ subdomain ++ "." ++ deskHost ++ "/api/v2"

def deskLocation (subdomain : String) : Location :=
  ⟨"https", none, some (.domain (subdomain ++ "." ++ deskHost)), none, "/api/v2", none, none⟩

def Account.base (a : Account) : String := a.apiBase.getD (deskBase a.subdomain)

section
variable (subdomain : String)

theorem deskBase_parts : deskBase subdomain = String.ofList
    (("https://" ++ subdomain ++ "." ++ deskHost ++ "/api").toList ++ '/' :: ['v', '2']) := by
  apply String.toList_inj.mp
  simp [deskBase]

theorem fullSegment_version : FullSegment '/' ['v', '2'] :=
  ⟨by decide, by simp [isSlash], by decide, by decide, by decide⟩

theorem tidy_deskBase : Tidy (deskBase subdomain) := by
  rw [deskBase_parts, ← List.append_nil (_ ++ _), ← List.replicate_zero (a := '/')]
  exact .intro fullSegment_version (by decide)

theorem dropEndWhile_deskBase :
    dropEndWhile (· = '/') (deskBase subdomain) = deskBase subdomain := by
  rw [deskBase_parts]
  exact fullSegment_version.kept _

theorem endsInNumber_desk : endsInNumber (subdomain ++ "." ++ deskHost).toList = false := by
  have labels : pieces '.' (subdomain ++ "." ++ deskHost).toList =
      pieces '.' (subdomain ++ ".freshservice").toList ++ ["com".toList] := by
    have split : (subdomain ++ "." ++ deskHost).toList =
        (subdomain ++ ".freshservice").toList ++ '.' :: "com".toList := by
      rw [deskHost]
      simp
    rw [split, pieces_append]
    rfl
  have named : "com".toList ≠ [] := by decide
  simp only [endsInNumber, labels, dropEmptyEnd, List.getLast?_concat, Option.some.injEq, named,
    if_false]
  decide

end

theorem Account.baseUrl_eq (a : Account) : a.baseUrl = dropEndWhile (· = '/') a.base := by
  rw [baseUrl, base]
  cases a.apiBase with
  | some base => rfl
  | none => exact (dropEndWhile_deskBase a.subdomain).symm

theorem parse_deskBase {subdomain : String} (small : ∀ c ∈ subdomain.toList, isSmallChar c = true)
    {l : Location} (parsed : Url.parse (deskBase subdomain) = .ok l) :
    l = deskLocation subdomain := by
  have hosted := hostChars_of_subdomain fun c own => isSubdomainChar_of_isSmallChar (small c own)
  have plain : ∀ c ∈ (subdomain ++ "." ++ deskHost).toList, isNameChar c = true := by
    intro c own
    have lower : c.isUpper = false := by
      rw [String.append_assoc, String.toList_append, List.mem_append] at own
      rcases own with letter | other
      · exact isUpper_of_isSmallChar (small c letter)
      · have others : ∀ c ∈ ("." ++ deskHost).toList, c.isUpper = false := by
          simpa using List.any_eq_false.mp
            (by decide : ("." ++ deskHost).toList.any Char.isUpper = false)
        exact others c other
    rw [isNameChar, hosted c own, lower]
    rfl
  have text : deskBase subdomain =
      "https://" ++ subdomain ++ "." ++ deskHost ++ "/" ++ "api/v2" := by
    simp only [deskBase, String.append_assoc]
    rfl
  rw [text, hosted_text, parse_hosted hosted (host_ne_nil subdomain) (by decide)] at parsed
  obtain ⟨h, host, there⟩ := map_eq_ok_iff.mp parsed
  have named := readHost_name plain (endsInNumber_desk subdomain) host
  have filled : isEmptyDomain (.domain (subdomain ++ "." ++ deskHost)) = false := by
    refine decide_eq_false fun empty => host_ne_nil subdomain ?_
    rw [Host.domain.inj empty]
    rfl
  rw [named, String.ofList_toList] at there
  simp only [filled, Bool.false_eq_true, ↓reduceIte] at there
  exact there.symm

theorem special_of_isWeb {l : Location} (web : Account.isWeb l = true) :
    schemeKind l.scheme = .special := by
  simp only [Account.isWeb, Bool.and_eq_true, Bool.or_eq_true, decide_eq_true_eq] at web
  rcases web.1 with http | https
  · rw [http]
    decide
  · rw [https]
    decide

theorem Connector.new_of_isCoherent {a : Account} (configured : Configured a)
    (coherent : a.IsCoherent) (url : (Url.parse a.baseUrl).isOk = true) :
    Connector.new a =
      .ok ⟨⟨a.baseUrl, a.subdomain, a.apiKey, a.categoryId⟩, a.ticketing⟩ :=
  Connector.new_eq_ok_iff.mpr
    ⟨configured.check_iff.mpr coherent, Client.new_of_isOk url, rfl⟩

theorem Connector.new_base {a : Account} (configured : Configured a) {k : Connector}
    (made : Connector.new a = .ok k) :
    ∃ l base, Url.parse a.base = .ok l ∧ Account.isWeb l = true ∧
      k.client.baseUrl = dropEndWhile (· = '/') a.base ∧
      Url.parse (dropEndWhile (· = '/') a.base) = .ok base ∧
      (a.apiBase = none → l = deskLocation a.subdomain) := by
  obtain ⟨checked, client, _⟩ := Connector.new_eq_ok_iff.mp made
  obtain ⟨⟨base, parsed⟩, same⟩ := Client.new_eq_ok_iff.mp client
  have based : k.client.baseUrl = a.baseUrl := by rw [same]
  rw [Account.baseUrl_eq] at parsed based
  cases set : a.apiBase with
  | some text =>
    obtain ⟨l, own, web⟩ := (configured.check_iff.mp checked).base text set
    have text' : a.base = text := by rw [Account.base, set, Option.getD_some]
    exact ⟨l, base, by rw [text', own], web, based, parsed, nofun⟩
  | none =>
    obtain ⟨d, built, complete, _, sameSubdomain⟩ := configured
    obtain ⟨domain, _, read, _⟩ := AccountDraft.build_eq_ok complete
    obtain ⟨_, small⟩ := subdomainOf_small read
    rw [← sameSubdomain] at small
    have text : a.base = deskBase a.subdomain := by rw [Account.base, set, Option.getD_none]
    have whole : Url.parse a.base = .ok base := by
      rwa [text, dropEndWhile_deskBase, ← text] at parsed
    have there : base = deskLocation a.subdomain := parse_deskBase small (by rw [← text, whole])
    exact ⟨base, base, whole, by rw [there]; rfl, based, parsed, fun _ => there⟩

/-- The connector puts every endpoint of an account that it takes behind the base as text. This base
    is a URL on the web. It is that of the subdomain unless another is set, and then every endpoint
    is found. With another base the endpoints are found when the base with a slash behind it leads
    to its own place, all of them or none, and none when it has a query or a fragment; and all of
    them when it has neither and its last segment is in plain sight. -/
theorem endpoints_found_behind_base (a : Account) (configured : Configured a) {k : Connector}
    (made : Connector.new a = .ok k) :
    ∃ l, Url.parse a.base = .ok l ∧ Account.isWeb l = true ∧
      (∀ e, e.path = e.spelled ∧
        k.client.address e = dropEndWhile (· = '/') a.base ++ "/" ++ e.spelled) ∧
      (a.apiBase = none → l = deskLocation a.subdomain ∧ ∀ e, k.client.Finds l e) ∧
      (∀ e, k.client.Finds l e ↔ Leads k.client.baseUrl l "") ∧
      (∀ e, k.client.Finds l e → l.query = none ∧ l.fragment = none) ∧
      (Tidy a.base → l.query = none → l.fragment = none → ∀ e, k.client.Finds l e) := by
  obtain ⟨l, base, parsed, web, based, trimmed, desk⟩ := Connector.new_base configured made
  have special := special_of_isWeb web
  have leads : ∀ e, k.client.Finds l e ↔ Leads (dropEndWhile (· = '/') a.base) l e.path := by
    intro e
    rw [Client.Finds, Client.address, based, Leads]
  have tidy : Tidy a.base → l.query = none → l.fragment = none → ∀ e, k.client.Finds l e :=
    fun own noQuery noFragment e =>
      (leads e).mpr (own.leads trimmed parsed special noQuery noFragment e.path_plain)
  refine ⟨l, parsed, web, fun e => ?_, fun none => ?_, fun e => ?_, fun e found => ?_, tidy⟩
  · rw [Client.address, based, e.path_eq_spelled]
    exact ⟨rfl, rfl⟩
  · have own : Tidy a.base := by
      rw [Account.base, none, Option.getD_none]
      exact tidy_deskBase a.subdomain
    have there := desk none
    exact ⟨there, tidy own (by rw [there]; rfl) (by rw [there]; rfl)⟩
  · rw [leads e, based]
    exact leads_iff_leads trimmed parsed special e.path_plain plainPath_nil
  · exact tailless_of_leads trimmed parsed special e.path_plain ((leads e).mp found)

theorem extended_endpoints_found :
    Configured extendedAccount ∧ ∃ k, Connector.new extendedAccount = .ok k ∧
      k.client.address (.member 7 12) =
        "https://desk.acme.com/api/v2/requester_groups/7/members/12" ∧
      ∃ l, Url.parse "https://desk.acme.com/api/v2/" = .ok l ∧ l.path = "/api/v2/" ∧
        ∀ e, k.client.Finds l e := by
  have configured : Configured extendedAccount := ⟨_, _, acme_built, rfl, rfl⟩
  have coherent : extendedAccount.IsCoherent :=
    ⟨fun _ => rfl, Account.checkBase_eq_ok_iff.mp (by decide +kernel)⟩
  have made := Connector.new_of_isCoherent configured coherent (by decide +kernel)
  have parsed : Url.parse extendedAccount.base = .ok ⟨"https", none, some (.domain "desk.acme.com"),
      none, "/api/v2/", none, none⟩ := by decide +kernel
  have tidy : Tidy (String.ofList
      ("https://desk.acme.com/api".toList ++ '/' :: ['v', '2'] ++ List.replicate 1 '/')) :=
    .intro fullSegment_version (by decide)
  obtain ⟨l, own, _, texts, _, _, _, found⟩ :=
    endpoints_found_behind_base extendedAccount configured made
  rw [parsed] at own
  cases own
  exact ⟨configured, _, made, (texts (.member 7 12)).2.trans (by decide +kernel), _, parsed, rfl,
    found tidy rfl rfl⟩

/-- An account is taken with a base behind which none of its endpoints are found. -/
def Strays (base : String) : Prop :=
  Configured { acmeAccount with apiBase := some base } ∧
    ∃ k l, Connector.new { acmeAccount with apiBase := some base } = .ok k ∧
      Url.parse base = .ok l ∧ ∀ e, ¬k.client.Finds l e

theorem strays_of_missed {base : String} (missed : (Url.parse base).toOption.any (fun l =>
    Account.isWeb l && (Url.parse (dropEndWhile (· = '/') base)).isOk &&
      !decide (Leads (dropEndWhile (· = '/') base) l "")) = true) : Strays base := by
  have configured : Configured { acmeAccount with apiBase := some base } :=
    ⟨_, _, acme_built, rfl, rfl⟩
  cases parsed : Url.parse base with
  | error e =>
    rw [parsed] at missed
    cases missed
  | ok l =>
    rw [parsed] at missed
    simp only [Except.toOption, Option.any_some, Bool.and_eq_true, Bool.not_eq_true',
      decide_eq_false_iff_not] at missed
    obtain ⟨⟨web, url⟩, nowhere⟩ := missed
    have coherent : Account.IsCoherent { acmeAccount with apiBase := some base } :=
      ⟨nofun, fun s same => ⟨l, by rw [← Option.some.inj same, parsed], web⟩⟩
    have made := Connector.new_of_isCoherent configured coherent url
    refine ⟨configured, _, l, made, parsed, fun e => ?_⟩
    cases trimmed : Url.parse (dropEndWhile (· = '/') base) with
    | error f =>
      rw [trimmed] at url
      cases url
    | ok m =>
      have everywhere : Leads (dropEndWhile (· = '/') base) l e.path ↔
          Leads (dropEndWhile (· = '/') base) l "" :=
        leads_iff_leads trimmed parsed (special_of_isWeb web) e.path_plain plainPath_nil
      exact fun found => nowhere (everywhere.mp found)

/-- A query, a fragment, and a blank or a backslash at the end. -/
theorem stray_bases_miss_every_endpoint :
    Strays "https://desk.acme.com/api/v2?tenant=1" ∧ Strays "https://desk.acme.com/api/v2#top" ∧
      Strays "https://desk.acme.com/api/v2 " ∧ Strays "http://127.0.0.1:8080 " ∧
      Strays "https://desk.acme.com/api/v2\\" :=
  ⟨strays_of_missed (by decide +kernel), strays_of_missed (by decide +kernel),
    strays_of_missed (by decide +kernel), strays_of_missed (by decide +kernel),
    strays_of_missed (by decide +kernel)⟩

end IdentitySync.Desk
