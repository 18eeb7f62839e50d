import IdentitySync.Desk.Connector
import IdentitySync.Proofs.Desk.Subdomain

/-!
Which accounts are taken. The key and the subdomain of an account that was built stay as they were
found good, but its category, its ticketing and its base may be changed. The connector takes it when
these go together and the client takes it. The client looks at the base only, and there only whether
it is a URL: it takes accounts that the connector refuses, though none that is as it was built.
-/
namespace IdentitySync.Desk
open Text Url

/-- An account that was built, and of which all but the key and the subdomain may be changed. -/
def Configured (a : Account) : Prop :=
  ∃ d built, AccountDraft.build d = .ok built ∧ a.apiKey = built.apiKey ∧
    a.subdomain = built.subdomain

/-- A category goes with ticketing only, and a base is the address of a web host. -/
structure Account.IsCoherent (a : Account) : Prop where
  category : a.categoryId.isSome = true → a.ticketing = true
  base : ∀ base, a.apiBase = some base → ∃ l, Url.parse base = .ok l ∧ isWeb l = true

variable {a : Account}

theorem Account.checkBase_eq_ok_iff {base : Option String} :
    checkBase base = .ok () ↔ ∀ s, base = some s → ∃ l, Url.parse s = .ok l ∧ isWeb l = true := by
  cases base with
  | none => exact ⟨fun _ => nofun, fun _ => rfl⟩
  | some base =>
    simp only [checkBase, Option.some.injEq, forall_eq']
    cases parsed : Url.parse base with
    | error e => simp
    | ok l =>
      by_cases web : isWeb l = true
      · simp [web]
      · simp [web]

theorem Account.check_eq_ok_iff :
    a.check = .ok () ↔ trim a.apiKey ≠ "" ∧ (∃ s, subdomainOf a.subdomain = .ok s) ∧
      a.IsCoherent := by
  have coherent : a.IsCoherent ↔ (a.categoryId.isSome = true → a.ticketing = true) ∧
      checkBase a.apiBase = .ok () := by
    rw [checkBase_eq_ok_iff]
    exact ⟨fun h => ⟨h.category, h.base⟩, fun h => ⟨h.1, h.2⟩⟩
  rw [coherent, check]
  by_cases noKey : trim a.apiKey = ""
  · simp [noKey]
  · rw [if_neg noKey]
    cases read : subdomainOf a.subdomain with
    | error e => simp
    | ok s =>
      by_cases lone : a.categoryId.isSome = true ∧ a.ticketing = false
      · simp [lone]
      · have paired : a.categoryId.isSome = true → a.ticketing = true := by simpa using lone
        have goes : (a.categoryId.isSome && !a.ticketing) = false := by simpa using lone
        simp only [goes, Bool.false_eq_true, ↓reduceIte]
        exact ⟨fun based => ⟨noKey, ⟨s, rfl⟩, paired, based⟩, fun all => all.2.2.2⟩

theorem Client.new_of_isOk (url : (Url.parse a.baseUrl).isOk = true) :
    Client.new a = .ok ⟨a.baseUrl, a.subdomain, a.apiKey, a.categoryId⟩ := by
  rw [Client.new]
  cases parsed : Url.parse a.baseUrl with
  | error e =>
    rw [parsed] at url
    cases url
  | ok l => rfl

theorem Client.new_eq_ok_iff {c : Client} :
    Client.new a = .ok c ↔ (∃ l, Url.parse a.baseUrl = .ok l) ∧
      c = ⟨a.baseUrl, a.subdomain, a.apiKey, a.categoryId⟩ := by
  rw [Client.new]
  cases Url.parse a.baseUrl with
  | error e => simp
  | ok l => simp [eq_comm]

theorem Connector.new_eq_ok_iff {k : Connector} :
    Connector.new a = .ok k ↔ a.check = .ok () ∧ Client.new a = .ok k.client ∧
      k.ticketing = a.ticketing := by
  rw [Connector.new]
  cases a.check with
  | error f => simp
  | ok _ =>
    cases Client.new a with
    | error f => simp
    | ok client =>
      simp only [Except.ok.injEq, true_and]
      constructor
      · rintro rfl
        exact ⟨rfl, rfl⟩
      · rintro ⟨rfl, same⟩
        rw [← same]

theorem Configured.check_iff (configured : Configured a) : a.check = .ok () ↔ a.IsCoherent := by
  obtain ⟨d, built, complete, sameKey, sameSubdomain⟩ := configured
  obtain ⟨domain, _, read, _, checked⟩ := AccountDraft.build_eq_ok complete
  obtain ⟨keyed, _⟩ := Account.check_eq_ok_iff.mp checked
  obtain ⟨named, small⟩ := subdomainOf_small read
  rw [Account.check_eq_ok_iff, sameKey, sameSubdomain]
  exact ⟨fun all => all.2.2, fun coherent =>
    ⟨keyed, ⟨_, subdomainOf_subdomain named small⟩, coherent⟩⟩

/-- The connector takes an account that was built when it is coherent and the client takes it, and
    the client when its base is a URL. So they agree on it unless the client takes it and it is not
    coherent, and they agree on every account that is as it was built. -/
theorem acceptances_agree_iff (a : Account) (configured : Configured a) :
    (∀ k : Connector, Connector.new a = .ok k ↔
      a.IsCoherent ∧ Client.new a = .ok k.client ∧ k.ticketing = a.ticketing) ∧
    ((∃ c, Client.new a = .ok c) ↔ ∃ l, Url.parse a.baseUrl = .ok l) ∧
    (((∃ c, Client.new a = .ok c) ↔ ∃ k, Connector.new a = .ok k) ↔
      ((∃ c, Client.new a = .ok c) → a.IsCoherent)) ∧
    ((∃ d, AccountDraft.build d = .ok a) →
      ((∃ c, Client.new a = .ok c) ↔ ∃ k, Connector.new a = .ok k)) := by
  have taken : ∀ k : Connector, Connector.new a = .ok k ↔
      a.IsCoherent ∧ Client.new a = .ok k.client ∧ k.ticketing = a.ticketing := by
    intro k
    rw [Connector.new_eq_ok_iff, configured.check_iff]
  have agree : ((∃ c, Client.new a = .ok c) ↔ ∃ k, Connector.new a = .ok k) ↔
      ((∃ c, Client.new a = .ok c) → a.IsCoherent) := by
    constructor
    · intro agree opened
      obtain ⟨k, made⟩ := agree.mp opened
      exact ((taken k).mp made).1
    · intro coherent
      constructor
      · rintro ⟨c, made⟩
        exact ⟨⟨c, a.ticketing⟩, (taken _).mpr ⟨coherent ⟨c, made⟩, made, rfl⟩⟩
      · rintro ⟨k, made⟩
        exact ⟨k.client, ((taken k).mp made).2.1⟩
  refine ⟨taken, ?_, agree, ?_⟩
  · simp only [Client.new_eq_ok_iff, exists_and_left, exists_eq, and_true]
  · rintro ⟨d, built⟩
    obtain ⟨_, _, _, _, checked⟩ := AccountDraft.build_eq_ok built
    exact agree.mpr fun _ => configured.check_iff.mp checked

theorem acme_built : AccountDraft.build
    { AccountDraft.empty with apiKey := some "key", domain := some "acme" } = .ok acmeAccount := by
  decide +kernel

def extendedAccount : Account :=
  { acmeAccount with
    categoryId := some "9", ticketing := true, apiBase := some "https://desk.acme.com/api/v2/" }

theorem extended_account_taken :
    Configured extendedAccount ∧
      ∃ k, Connector.new extendedAccount = .ok k ∧ k.ticketing = true := by
  have configured : Configured extendedAccount := ⟨_, _, acme_built, rfl, rfl⟩
  have coherent : extendedAccount.IsCoherent :=
    ⟨fun _ => rfl, Account.checkBase_eq_ok_iff.mp (by decide +kernel)⟩
  obtain ⟨taken, _⟩ := acceptances_agree_iff extendedAccount configured
  have made := Client.new_of_isOk (a := extendedAccount) (by decide +kernel)
  exact ⟨configured, ⟨_, true⟩, (taken ⟨_, true⟩).mpr ⟨coherent, made, rfl⟩, rfl⟩

def strayCategory : Account := { acmeAccount with categoryId := some "9" }

def offWeb : Account := { acmeAccount with apiBase := some "ftp://desk.acme.com/api/v2" }

/-- The client takes an account that the connector refuses. -/
def Disputed (a : Account) : Prop :=
  Configured a ∧ (∃ c, Client.new a = .ok c) ∧ ∀ k, Connector.new a ≠ .ok k

theorem disputed_of_refused {a : Account} (configured : Configured a)
    (url : (Url.parse a.baseUrl).isOk = true) (refused : a.check ≠ .ok ()) : Disputed a :=
  ⟨configured, ⟨_, Client.new_of_isOk url⟩, fun _ made =>
    refused (Connector.new_eq_ok_iff.mp made).1⟩

theorem client_takes_what_connector_refuses :
    strayCategory.check = .error AccountFault.categoryWithoutTicketing.fault ∧
      Disputed strayCategory ∧ Disputed offWeb := by
  have category : Configured strayCategory := ⟨_, _, acme_built, rfl, rfl⟩
  have base : Configured offWeb := ⟨_, _, acme_built, rfl, rfl⟩
  exact ⟨by decide +kernel, disputed_of_refused category (by decide +kernel) (by decide +kernel),
    disputed_of_refused base (by decide +kernel) (by decide +kernel)⟩

end IdentitySync.Desk
