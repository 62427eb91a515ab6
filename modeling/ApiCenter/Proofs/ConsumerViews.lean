import ApiCenter.Model.Access
import ApiCenter.Proofs.Reachability
import ApiCenter.Proofs.Versions

namespace ApiCenter.Proofs.ConsumerViews
open Library Calls Reachability

/-- The services of both types, as `getByType` lists them. -/
def listedByType (r : RegistryService) : List ServiceRegistryEntry :=
  r.getByType .tribe ++ r.getByType .shared

/-- The views that read the keys of the map and those that read its entries say the same. -/
structure ViewsAgree (r : RegistryService) : Prop where
  keyed : ∀ id e, r.services.get? id = some e → e.serviceId = id
  consumers : ∀ source target, (r.services.get? source).isSome →
    (r.canConsume source target = .ok true ↔ source ∈ r.getConsumers target)
  consumers_once : ∀ source target, source ∈ r.getConsumers target →
    (r.getConsumers target).count source = 1
  listed : ∀ id e, r.services.get? id = some e → e ∈ listedByType r
  listed_once : ∀ id, (r.services.get? id).isSome →
    ((listedByType r).map (·.serviceId)).count id = 1

variable {v : Validators} {r : RegistryService} {id : String}

/-- The service ids inside the entries are the keys, so no id is there twice. -/
theorem serviceIds_eq_keys (h : Keyed r.services) :
    r.services.values.map (·.serviceId) = r.services.keys :=
  r.services.map_values_eq_keys _ fun id e he => (h id e he).1

theorem serviceIds_nodup (h : Keyed r.services) :
    (r.services.values.map (·.serviceId)).Nodup := by
  rw [serviceIds_eq_keys h]
  exact r.services.own.keys_nodup

theorem mem_getConsumers (h : Keyed r.services) (source target : String) :
    source ∈ r.getConsumers target ↔
      ∃ e, r.services.get? source = some e ∧ target ∈ e.consumes := by
  simp only [RegistryService.getConsumers, List.mem_map, List.mem_filter,
    PlainObject.mem_values_iff, List.contains_iff_mem]
  constructor
  · intro hex
    obtain ⟨e, ⟨⟨id, he⟩, ht⟩, hs⟩ := hex
    have hid := (h id e he).1
    rw [← hs, hid]
    exact ⟨e, he, ht⟩
  · intro hex
    obtain ⟨e, he, ht⟩ := hex
    exact ⟨e, ⟨⟨source, he⟩, ht⟩, (h source e he).1⟩

theorem getConsumers_nodup (h : Keyed r.services) (target : String) :
    (r.getConsumers target).Nodup := by
  refine List.Nodup.sublist ?_ (serviceIds_nodup h)
  exact List.Sublist.map _ List.filter_sublist

theorem canConsume_iff (he : r.services.get? source = some e) (target : String) :
    r.canConsume source target = .ok true ↔ target ∈ e.consumes := by
  simp [RegistryService.canConsume, RegistryService.find_of_get? he]

/-- Every type is one of the two, a missing one counting as `tribe`. -/
theorem listedByType_perm (r : RegistryService) : (listedByType r).Perm r.services.values := by
  have hshared : r.getByType .shared =
      r.services.values.filter fun svc => !decide (svc.serviceType.getD .tribe = .tribe) := by
    unfold RegistryService.getByType
    apply List.filter_congr
    intro svc _
    cases svc.serviceType.getD .tribe <;> rfl
  unfold listedByType
  rw [hshared]
  exact List.filter_append_perm _ _

theorem views_agree (h : Keyed r.services) : ViewsAgree r where
  keyed id e he := (h id e he).1
  consumers source target hs := by
    obtain ⟨e, he⟩ := Option.isSome_iff_exists.mp hs
    rw [canConsume_iff he, mem_getConsumers h]
    simp [he]
  consumers_once source target hm := List.count_eq_one_of_mem (getConsumers_nodup h target) hm
  listed id e he := by
    rw [(listedByType_perm r).mem_iff, PlainObject.mem_values_iff]
    exact ⟨id, he⟩
  listed_once id hs := by
    have hperm := (listedByType_perm r).map (·.serviceId)
    rw [hperm.count_eq]
    apply List.count_eq_one_of_mem (serviceIds_nodup h)
    rw [serviceIds_eq_keys h, PlainObject.mem_keys_iff]
    exact hs

/-- Every registry a gateway can come to shows the same consumers and types in all views. -/
theorem reachable_views_agree (h : Reachable v r) : ViewsAgree r :=
  views_agree (reachable_keyed h)

def billingTwice : ServiceManifestDto Versions.anything :=
  ⟨{ Versions.ordersBody .undefined with consumes := .value ["billing", "billing"] }, by decide⟩

/-- `orders`, registered with `billing` twice among what it consumes. -/
def consuming : RegistryService :=
  (RegistryService.call {} (.register billingTwice.toManifest) "t0" .acknowledged).registry

theorem views_agree_repeated :
    ViewsAgree consuming ∧ consuming.getConsumers "billing" = ["orders"] :=
  ⟨reachable_views_agree (.call (.fresh false) (.register billingTwice) "t0" .acknowledged),
    by decide⟩

end ApiCenter.Proofs.ConsumerViews
