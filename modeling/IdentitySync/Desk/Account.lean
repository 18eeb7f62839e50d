import IdentitySync.Access.Credentials
import IdentitySync.Desk.Fault
import IdentitySync.Url.Basic

/-!
Accounts of the service desk: where one is, how to sign in, and what of it is used.
-/
namespace IdentitySync.Desk
open Text Url

inductive AccountFault where
  | noKey
  | noDomain
  | badDomain (domain : String)
  | categoryWithoutTicketing
  | badBase (url : String)
  | notSet (name : String)
  | notBoolean (name value : String)
deriving DecidableEq, Repr

def AccountFault.message : AccountFault → String
  | .noKey => "api_key is required"
  | .noDomain => "domain is required"
  | .badDomain domain =>
    "invalid domain '" ++ domain ++ "': expected an account subdomain such as 'acme'"
  | .categoryWithoutTicketing => "category_id requires ticketing to be enabled"
  | .badBase url => "api_base_url must be an http(s) URL with a host, got '" ++ url ++ "'"
  | .notSet name => name ++ " is not set"
  | .notBoolean name value => name ++ " must be a boolean, got '" ++ value ++ "'"

def AccountFault.fault (f : AccountFault) : Fault := .config f.message

def deskHost : String := "freshservice.com"

def keyPassword : String := "X"

def isSubdomainChar (c : Char) : Bool := c.isAlphanum || c = '-'

def withoutScheme (cs : List Char) : List Char :=
  match dropStart? "https://".toList cs with
  | some rest => rest
  | none => (dropStart? "http://".toList cs).getD cs

def firstLabel (domain : String) : List Char :=
  let cs := withoutScheme (trimChars domain.toList)
  ((cs.reverse.dropWhile (· = '/')).reverse).takeWhile (· ≠ '.')

/-- The account's subdomain, from whatever way of writing the domain. -/
def subdomainOf (domain : String) : Except AccountFault String :=
  let label := firstLabel domain
  if !label.isEmpty && label.all isSubdomainChar then .ok (String.ofList (label.map Char.toLower))
  else .error (.badDomain domain)

structure Account where
  apiKey : String
  subdomain : String
  categoryId : Option String
  ticketing : Bool
  apiBase : Option String
  timeouts : Timeouts
deriving DecidableEq, Repr

def ticketUrl (subdomain : String) (id : Nat) : String :=
  "https://" ++ subdomain ++ "." ++ deskHost ++ "/a/tickets/" ++ numeral id

namespace Account

def name : String := "freshservice"

/-- The address that the paths of endpoints are put behind. -/
def baseUrl (a : Account) : String :=
  match a.apiBase with
  | some base => dropEndWhile (· = '/') base
  | none => "https://" ++ a.subdomain ++ "." ++ deskHost ++ "/api/v2"

def credentials (a : Account) : Credentials := .basic a.apiKey (some keyPassword)

def isWeb (l : Location) : Bool := (l.scheme = "http" || l.scheme = "https") && l.host.isSome

def checkBase : Option String → Except Fault Unit
  | none => .ok ()
  | some base =>
    match Url.parse base with
    | .error e => .error (.badUrl e)
    | .ok l => if isWeb l then .ok () else .error (AccountFault.badBase base).fault

/-- What is wrong with an account, in this order: the key, the subdomain, the category, the base. -/
def check (a : Account) : Except Fault Unit :=
  if trim a.apiKey = "" then .error AccountFault.noKey.fault
  else match subdomainOf a.subdomain with
    | .error e => .error e.fault
    | .ok _ =>
      if a.categoryId.isSome && !a.ticketing then
        .error AccountFault.categoryWithoutTicketing.fault
      else checkBase a.apiBase

def shown (a : Account) : String :=
  shownRecord "FreshserviceConfig"
    [("api_key", quoted Credentials.masked), ("subdomain", quoted a.subdomain),
     ("category_id", shownOption quoted a.categoryId), ("ticketing", shownBool a.ticketing),
     ("api_base_url", shownOption quoted a.apiBase), ("connection", a.timeouts.shown)]

end Account

structure AccountDraft where
  apiKey : Option String
  domain : Option String
  categoryId : Option String
  ticketing : Bool
  apiBase : Option String
  timeouts : Timeouts

namespace AccountDraft

def empty : AccountDraft := ⟨none, none, none, false, none, .standard⟩

def build (d : AccountDraft) : Except Fault Account :=
  match d.apiKey, d.domain with
  | none, _ => .error AccountFault.noKey.fault
  | _, none => .error AccountFault.noDomain.fault
  | some apiKey, some domain =>
    match subdomainOf domain with
    | .error e => .error e.fault
    | .ok subdomain =>
      let account : Account := ⟨apiKey, subdomain, d.categoryId, d.ticketing, d.apiBase, d.timeouts⟩
      account.check.map fun _ => account

end AccountDraft

def readFlag (name value : String) : Except AccountFault Bool :=
  let v := lowerAscii (trim value)
  if v ∈ ["1", "true", "yes", "on"] then .ok true
  else if v ∈ ["", "0", "false", "no", "off"] then .ok false
  else .error (.notBoolean name v)

def nonEmpty? (s : String) : Option String := if s = "" then none else some s

def requiredSetting (settings : String → Option String) (name : String) :
    Except AccountFault String :=
  match settings name with
  | some v => if trim v = "" then .error (.notSet name) else .ok v
  | none => .error (.notSet name)

def Account.ofSettings (settings : String → Option String) : Except Fault Account :=
  match requiredSetting settings "FRESHSERVICE_API_KEY" with
  | .error e => .error e.fault
  | .ok key =>
    match requiredSetting settings "FRESHSERVICE_DOMAIN" with
    | .error e => .error e.fault
    | .ok domain =>
      let flag := match settings "FRESHSERVICE_TICKETING" with
        | some v => readFlag "FRESHSERVICE_TICKETING" v
        | none => .ok false
      match flag with
      | .error e => .error e.fault
      | .ok ticketing =>
        AccountDraft.build
          { AccountDraft.empty with
            apiKey := some key
            domain := some domain
            categoryId := (settings "FRESHSERVICE_CATEGORY_ID").bind nonEmpty?
            ticketing := ticketing
            apiBase := (settings "FRESHSERVICE_API_BASE_URL").bind nonEmpty? }

end IdentitySync.Desk
