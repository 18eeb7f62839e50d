import IdentitySync.Proofs.Desk.OwnKind
import IdentitySync.Proofs.Text.Numeral
import IdentitySync.Proofs.Text.Pieces

/-!
Ids of grants. The id of a grant is joined from five texts by colons, and nothing is escaped: the id
of a resource may have colons of its own. Since the four texts around it have none, the parts can be
told apart all the same, the first from the front and the last three from the back.
-/
namespace IdentitySync

/-- The texts around the id of the resource have none of the marks that join them. -/
structure Grant.Separable (resource : ResourceId) (slug : String) (principal : ResourceId) :
    Prop where
  resourceType : ':' ∉ resource.resourceType.toList
  slug : ':' ∉ slug.toList
  principalType : ':' ∉ principal.resourceType.toList
  principal : ':' ∉ principal.resource.toList

theorem Entitlement.idFor_toList (r : ResourceId) (slug : String) : (idFor r slug).toList =
    r.resourceType.toList ++ ':' :: (r.resource.toList ++ ':' :: slug.toList) := by
  simp [idFor]

theorem Grant.idFor_toList (entitlementId : String) (p : ResourceId) :
    (idFor entitlementId p).toList =
      (entitlementId.toList ++ ':' :: p.resourceType.toList) ++ ':' :: p.resource.toList := by
  simp [idFor]

theorem Entitlement.idFor_inj {r r' : ResourceId} {slug slug' : String}
    (type : ':' ∉ r.resourceType.toList) (type' : ':' ∉ r'.resourceType.toList)
    (free : ':' ∉ slug.toList) (free' : ':' ∉ slug'.toList) :
    idFor r slug = idFor r' slug' ↔ r = r' ∧ slug = slug' := by
  rw [← String.toList_inj, idFor_toList, idFor_toList, Text.joined_inj type type',
    Text.joined_inj_last free free', String.toList_inj, String.toList_inj, String.toList_inj]
  cases r
  cases r'
  simp [and_assoc]

theorem Grant.idFor_inj {e e' : String} {p p' : ResourceId}
    (type : ':' ∉ p.resourceType.toList) (type' : ':' ∉ p'.resourceType.toList)
    (free : ':' ∉ p.resource.toList) (free' : ':' ∉ p'.resource.toList) :
    idFor e p = idFor e' p' ↔ e = e' ∧ p = p' := by
  rw [← String.toList_inj, idFor_toList, idFor_toList, Text.joined_inj_last free free',
    Text.joined_inj_last type type', String.toList_inj, String.toList_inj, String.toList_inj]
  cases p
  cases p'
  simp [and_assoc]

theorem Grant.Separable.idFor_inj {r r' : ResourceId} {slug slug' : String} {p p' : ResourceId}
    (here : Separable r slug p) (there : Separable r' slug' p') :
    Grant.idFor (Entitlement.idFor r slug) p = Grant.idFor (Entitlement.idFor r' slug') p' ↔
      r = r' ∧ slug = slug' ∧ p = p' := by
  rw [Grant.idFor_inj here.principalType there.principalType here.principal there.principal,
    Entitlement.idFor_inj here.resourceType there.resourceType here.slug there.slug, and_assoc]

end IdentitySync

namespace IdentitySync.Desk
open Http Exchange

theorem Syncer.resourceType_unmarked (k : Syncer) : ':' ∉ k.resourceType.id.toList := by
  cases k <;> decide

theorem AccessKind.slug_unmarked (kind : AccessKind) : ':' ∉ kind.slug.toList := by
  cases kind <;> decide

theorem idText_unmarked (n : UInt64) : ':' ∉ (idText n).toList := by
  intro marked
  rw [idText, Text.numeral_toList] at marked
  exact absurd (Text.isDigit_of_mem_digits marked) (by decide)

structure SameAccess (g g' : Grant) : Prop where
  resource : g.entitlement.resource.id = g'.entitlement.resource.id
  entitlement : g.entitlement.slug = g'.entitlement.slug
  principal : g.principal = g'.principal

namespace AccessKind

/-- The grant is in a page that the syncer returns for the resource, whoever answers. -/
def Listed (kind : AccessKind) (r : Resource) (g : Grant) : Prop :=
  ∃ (σ : Type) (server : σ → Request → Answer × σ) (s : σ) (c : Client) (token : PageToken)
    (page : SyncPage Grant),
    ((kind.syncer.grants c r token).run server s).1 = .done page ∧ g ∈ page.items

variable {kind kind' : AccessKind} {r r' : Resource} {g g' : Grant}

theorem offered_id {e : Entitlement} (offered : e ∈ (kind.syncer.entitlements r).items) :
    e.id = Entitlement.idFor r.id kind.slug := by
  cases kind <;> (cases List.mem_singleton.mp offered; rfl)

theorem offered_unique {e e' : Entitlement} (offered : e ∈ (kind.syncer.entitlements r).items)
    (other : e' ∈ (kind.syncer.entitlements r).items) : e = e' := by
  cases kind <;> exact (List.mem_singleton.mp offered).trans (List.mem_singleton.mp other).symm

theorem Listed.new (listed : kind.Listed r g) :
    ∃ e ∈ (kind.syncer.entitlements r).items, ∃ (k : Syncer) (n : UInt64),
      g = Grant.new e ⟨k.resourceType.id, idText n⟩ := by
  obtain ⟨σ, server, s, c, token, page, done, hg⟩ := listed
  exact kind.granted_new (done ▸ ends_of_run server _ s) hg

theorem Listed.own (listed : kind.Listed r g) :
    g.entitlement.resource = r ∧ g.entitlement.slug = kind.slug := by
  obtain ⟨e, offered, _, _, rfl⟩ := listed.new
  exact kind.entitlement_own offered

theorem Listed.joined (unmarked : ':' ∉ r.id.resourceType.toList) (listed : kind.Listed r g) :
    g.id = Grant.idFor (Entitlement.idFor r.id kind.slug) g.principal ∧
      Grant.Separable r.id kind.slug g.principal := by
  obtain ⟨e, offered, k, n, rfl⟩ := listed.new
  refine ⟨?_, unmarked, kind.slug_unmarked, k.resourceType_unmarked, idText_unmarked n⟩
  rw [← offered_id offered]
  rfl

theorem Listed.id_eq_iff (unmarked : ':' ∉ r.id.resourceType.toList)
    (unmarked' : ':' ∉ r'.id.resourceType.toList) (listed : kind.Listed r g)
    (listed' : kind'.Listed r' g') : g.id = g'.id ↔ SameAccess g g' := by
  obtain ⟨id, separable⟩ := listed.joined unmarked
  obtain ⟨id', separable'⟩ := listed'.joined unmarked'
  obtain ⟨own, slug⟩ := listed.own
  obtain ⟨own', slug'⟩ := listed'.own
  rw [id, id', separable.idFor_inj separable']
  constructor
  · rintro ⟨resource, entitlement, principal⟩
    exact ⟨by rw [own, own', resource], by rw [slug, slug', entitlement], principal⟩
  · rintro ⟨resource, entitlement, principal⟩
    rw [own, own'] at resource
    rw [slug, slug'] at entitlement
    exact ⟨resource, entitlement, principal⟩

theorem Listed.eq_of_sameAccess (listed : kind.Listed r g) (listed' : kind.Listed r g')
    (same : SameAccess g g') : g = g' := by
  obtain ⟨e, offered, k, n, rfl⟩ := listed.new
  obtain ⟨e', offered', k', n', rfl⟩ := listed'.new
  obtain rfl := offered_unique offered offered'
  have principal : (⟨k.resourceType.id, idText n⟩ : ResourceId) = ⟨k'.resourceType.id, idText n'⟩ :=
    same.principal
  rw [principal]

end AccessKind

/-- As long as only ids of resources have colons, two ids of grants are the same for the same
    resource, slug and principal only. So are the ids of all grants that are ever listed, by
    whichever syncers, for resources whose type has no colon, as none of the published types has;
    and of the grants of one resource as it stands, no two have the same id. -/
theorem grant_ids_tell_grants_apart :
    (∀ r r' slug slug' p p', Grant.Separable r slug p → Grant.Separable r' slug' p' →
      (Grant.idFor (Entitlement.idFor r slug) p = Grant.idFor (Entitlement.idFor r' slug') p' ↔
        r = r' ∧ slug = slug' ∧ p = p')) ∧
    (∀ k : Syncer, ':' ∉ k.resourceType.id.toList) ∧
    ∀ (kind kind' : AccessKind) (r r' : Resource) (g g' : Grant),
      ':' ∉ r.id.resourceType.toList → ':' ∉ r'.id.resourceType.toList →
      kind.Listed r g → kind'.Listed r' g' →
        g.entitlement.resource = r ∧ g'.entitlement.resource = r' ∧
          (g.id = g'.id ↔ SameAccess g g') ∧
          (kind = kind' → r = r' → g.id = g'.id → g = g') := by
  refine ⟨fun _ _ _ _ _ _ here there => here.idFor_inj there, Syncer.resourceType_unmarked, ?_⟩
  intro kind kind' r r' g g' unmarked unmarked' listed listed'
  have tells := AccessKind.Listed.id_eq_iff unmarked unmarked' listed listed'
  refine ⟨listed.own.1, listed'.own.1, tells, ?_⟩
  rintro rfl rfl same
  exact listed.eq_of_sameAccess listed' (tells.mp same)

/-- A colon in a slug would be taken for the end of the resource's id. -/
example : Entitlement.idFor ⟨"role", "7"⟩ "on:call" =
    Entitlement.idFor ⟨"role", "7:on"⟩ "call" := by decide

def pair : Response := rendered AgentGroup.codec "group" ⟨7, "Ops", none, [1, 2], none⟩ [] midnight

theorem pair_listed : ∀ p ∈ [agentPrincipal 1, agentPrincipal 2],
    ∃ g, AccessKind.agentGroup.Listed opsGroup g ∧ g.principal = p := by
  have principals : ((Syncer.agentGroups.grants acme opsGroup ⟨"", 0⟩).run
      (constantServer pair) ()).1.done?.map (fun page => page.items.map Grant.principal) =
        some [agentPrincipal 1, agentPrincipal 2] := by
    decide +kernel
  obtain ⟨page, done, members⟩ := Option.map_eq_some_iff.mp principals
  intro p hp
  rw [← members] at hp
  obtain ⟨g, hg, rfl⟩ := List.mem_map.mp hp
  exact ⟨g, ⟨Unit, constantServer pair, (), acme, _, page, Outcome.eq_done done, hg⟩, rfl⟩

/-- A group whose id goes on like that of an entitlement is another group, and the two agents have
    grants of their own. -/
theorem pair_told_apart :
    let grantId := fun id => Grant.idFor (Entitlement.idFor ⟨agentGroupId, id⟩ memberSlug)
      (agentPrincipal 1)
    grantId "7" ≠ grantId "7:member" ∧
    ∃ g g', AccessKind.agentGroup.Listed opsGroup g ∧ AccessKind.agentGroup.Listed opsGroup g' ∧
      g.principal = agentPrincipal 1 ∧ g'.principal = agentPrincipal 2 ∧ g.id ≠ g'.id := by
  intro grantId
  obtain ⟨joined, _, tells⟩ := grant_ids_tell_grants_apart
  have separable : ∀ id, Grant.Separable ⟨agentGroupId, id⟩ memberSlug (agentPrincipal 1) :=
    fun _ => ⟨Syncer.agentGroups.resourceType_unmarked, AccessKind.agentGroup.slug_unmarked,
      Syncer.agents.resourceType_unmarked, idText_unmarked 1⟩
  obtain ⟨g, hg, first⟩ := pair_listed (agentPrincipal 1) (by simp)
  obtain ⟨g', hg', second⟩ := pair_listed (agentPrincipal 2) (by simp)
  refine ⟨fun same => ?_, g, g', hg, hg', first, second, fun same => ?_⟩
  · exact absurd ((joined _ _ _ _ _ _ (separable "7") (separable "7:member")).mp same).1 (by decide)
  · have unmarked := Syncer.agentGroups.resourceType_unmarked
    obtain ⟨_, _, apart, _⟩ := tells _ _ _ _ g g' unmarked unmarked hg hg'
    have principal := (apart.mp same).principal
    rw [first, second] at principal
    exact absurd principal (by decide +kernel)

end IdentitySync.Desk
