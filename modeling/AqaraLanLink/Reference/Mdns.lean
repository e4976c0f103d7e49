import AqaraLanLink.Library.Dictionary
import AqaraLanLink.Library.IpAddress

/-!
# The reference's search for a hub

`hub/mdns.py`: which services that have answered become records, and which record is the hub's.
-/

namespace AqaraLanLink
namespace Reference

open Library

/-- `_is_lan_address`: the host, without an IPv6 scope, is a private address. -/
def isLanAddress (host : String) : Bool :=
  match IpAddress.parse? (String.ofList (host.toList.takeWhile (· ≠ '%'))) with
  | some address => IpAddress.isPrivate address
  | none => false

/-- A service, once its records have been asked for. -/
structure ServiceInfo where
  /-- `id` of its properties. -/
  did : Option String
  addresses : List String
  port : ℕ
  name : String

/-- `AqaraServiceRecord`. -/
structure ServiceRecord where
  host : String
  port : ℕ
  did : String
  name : String
  deriving DecidableEq, Repr

/-- `_resolve`, once the service has answered. -/
def resolve (results : Dictionary String ServiceRecord) (info : ServiceInfo) :
    Dictionary String ServiceRecord :=
  match info.did, info.addresses with
  | some did, host :: _ =>
      if did = "" ∨ isLanAddress host = false ∨ info.port = 0 then results
      else if (results.get? did).isSome then results
      else
        results.set did
          ⟨host, info.port, did, String.ofList (info.name.toList.takeWhile (· ≠ '.'))⟩
  | _, _ => results

/-- `discover_hubs`, on a network on which these services answer. -/
def discoverHubs (infos : List ServiceInfo) : List ServiceRecord :=
  (infos.foldl resolve .empty).values

/-- `discover_hub_by_did`. -/
def discoverHubByDid (infos : List ServiceInfo) (did : String) : Option ServiceRecord :=
  (discoverHubs infos).find? (·.did = did)

theorem lan_resolve {results : Dictionary String ServiceRecord}
    (lan : ∀ entry ∈ results.entries, isLanAddress entry.2.host = true) (info : ServiceInfo) :
    ∀ entry ∈ (resolve results info).entries, isLanAddress entry.2.host = true := by
  intro entry member
  simp only [resolve] at member
  split at member
  · split at member
    · exact lan entry member
    · rename_i refused
      split at member
      · exact lan entry member
      · rcases Dictionary.mem_set member with rfl | old
        · simp only [not_or, Bool.not_eq_false] at refused
          exact refused.2.1
        · exact lan entry old
  · exact lan entry member

/-- Whatever answers, the record of a hub has its device id and an address of the local network. -/
theorem discoverHubByDid_spec {infos : List ServiceInfo} {did : String} {record : ServiceRecord}
    (found : discoverHubByDid infos did = some record) :
    record.did = did ∧ isLanAddress record.host = true := by
  have lan : ∀ infos : List ServiceInfo, ∀ results : Dictionary String ServiceRecord,
      (∀ entry ∈ results.entries, isLanAddress entry.2.host = true) →
      ∀ entry ∈ (infos.foldl resolve results).entries, isLanAddress entry.2.host = true := by
    intro infos
    induction infos with
    | nil => exact fun results lan => lan
    | cons info infos induction => exact fun results lan => induction _ (lan_resolve lan info)
  obtain ⟨entry, member, rfl⟩ := List.mem_map.mp (List.mem_of_find?_eq_some found)
  have named := List.find?_some found
  exact ⟨of_decide_eq_true named, lan infos .empty nofun entry member⟩

end Reference
end AqaraLanLink
