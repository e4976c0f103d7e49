import AqaraLanLink.Port.DnsRecords
import AqaraLanLink.Reference.Mdns
import Mathlib.Data.Int.Notation
import Mathlib.Data.List.Infix

/-!
# Which hub gets the credentials

`findHub` and `connect` of `AqaraPlatform` send the user id and the token of the account to the hub
that they choose among the services that have answered.  The reference only takes a record with the
device id of the hub and an address of the local network.
-/

namespace AqaraLanLink
namespace Comparison
namespace HubChoice

open Library Outcome Port.Discovery

/-! ## Choosing a hub -/

/-- `config.hub`. -/
structure HubConfig where
  deviceId : Option String
  host : Option String
  port : Option ℤ

/-- What `findHub` reads of an entry of the inventory. -/
structure InventoryEntry where
  did : Option String
  model : Option String

/-- `/\\.gateway\\./.test(device.model ?? '')`. -/
def InventoryEntry.isGateway (entry : InventoryEntry) : Bool :=
  decide (".gateway.".toList <:+: (entry.model.getD "").toList)

/-- Where a tunnel leads. -/
structure Target where
  deviceId : String
  host : String
  port : ℤ
  deriving DecidableEq, Repr

/-- A hub that has answered, as a target. -/
def Target.ofHub (hub : Hub) : Target := ⟨hub.deviceId, hub.host, hub.port⟩

/-- The device id that `findHub` looks for. -/
def wanted (config : HubConfig) (inventory : List InventoryEntry) : Option String :=
  config.deviceId.or ((inventory.find? InventoryEntry.isGateway).bind InventoryEntry.did)

/-- The configured host, if there is one. -/
def configuredTarget (config : HubConfig) (inventory : List InventoryEntry) : Option Target :=
  match config.host, config.port, wanted config inventory with
  | some host, some port, some wanted =>
      if host ≠ "" ∧ port ≠ 0 ∧ wanted ≠ "" then some ⟨wanted, host, port⟩ else none
  | _, _, _ => none

/-- `findHub`, once the search has ended. -/
def findHub (config : HubConfig) (inventory : List InventoryEntry) (onNetwork : List Hub) :
    Option Target :=
  let found := (onNetwork.find? fun hub => some hub.deviceId = wanted config inventory).or
    onNetwork.head?
  match found with
  | some hub => some (.ofHub hub)
  | none => configuredTarget config inventory

/-! ## Connecting -/

/-- The session that the cloud has given. -/
structure Session where
  userId : String
  token : String

/-- What the platform does on the network, or tells the user. -/
inductive Deed where
  /-- It opens a tunnel. -/
  | opens (target : Target)
  /-- It sends the check-in through the tunnel. -/
  | checksIn (target : Target) (userId token : String)
  /-- It logs that no hub was found. -/
  | noHubFound

/-- `connect`.  The check-in is sent once the handshake has succeeded. -/
def connect (target : Target) (session : Session) (handshake : Bool) : List Deed :=
  .opens target :: if handshake then [.checksIn target session.userId session.token] else []

/-- `start`, from the search on. -/
def start (config : HubConfig) (inventory : List InventoryEntry) (session : Session)
    (handshake : Bool) (onNetwork : List Hub) : List Deed :=
  match findHub config inventory onNetwork with
  | some target => connect target session handshake
  | none => [.noHubFound]

/-- `discoverHubs({ timeoutMs: 4000 }).catch(() => [])`: the packets that come in before the time is
up, or nothing when the socket fails. -/
def search (fuel : ℕ) (packets : Option (List (List UInt8))) : Outcome String (List Hub) :=
  match packets with
  | some packets => discoverHubs fuel packets
  | none => .returns []

/-! ## Whose hub it is -/

/-- The record is of the account's own hub: the configured one or, if none is configured, a gateway
of the inventory. -/
def Own (config : HubConfig) (inventory : List InventoryEntry) (deviceId : String) : Prop :=
  match config.deviceId with
  | some configured => deviceId = configured
  | none => ∃ entry ∈ inventory, entry.isGateway = true ∧ entry.did = some deviceId

/-- A record that may get the credentials: of the account's own hub, on the local network. -/
def Trusted (config : HubConfig) (inventory : List InventoryEntry) (hub : Hub) : Prop :=
  Own config inventory hub.deviceId ∧ Reference.isLanAddress hub.host = true

/-- The target is a record that may get the credentials or, when no such record answered, the
configured host. -/
def MayGet (config : HubConfig) (inventory : List InventoryEntry) (onNetwork : List Hub)
    (target : Target) : Prop :=
  (∃ hub ∈ onNetwork, Trusted config inventory hub ∧ target = .ofHub hub) ∨
    (∀ hub ∈ onNetwork, ¬ Trusted config inventory hub) ∧
      configuredTarget config inventory = some target

/-- Every deed keeps the credentials on the account's own hub. -/
def Keeps (config : HubConfig) (inventory : List InventoryEntry) (onNetwork : List Hub) :
    Deed → Prop
  | .opens target => MayGet config inventory onNetwork target
  | .checksIn target _ _ => MayGet config inventory onNetwork target
  | .noHubFound => (∀ hub ∈ onNetwork, ¬ Trusted config inventory hub) ∧
      configuredTarget config inventory = none

/-- Whatever session the cloud gives and however the handshake ends, the credentials are kept. -/
def KeepsCredentials (config : HubConfig) (inventory : List InventoryEntry)
    (packets : Option (List (List UInt8))) : Prop :=
  ∀ onNetwork, Yields (fun fuel => search fuel packets) onNetwork →
    ∀ session handshake, ∀ deed ∈ start config inventory session handshake onNetwork,
      Keeps config inventory onNetwork deed

/-- The first record with the wanted device id has an address of the local network, or it is the
configured host and no record may get the credentials; and if records have answered but none with
that id, then no hub is configured, and the first record is of another gateway of the inventory, on
the local network. -/
structure Fortunate (config : HubConfig) (inventory : List InventoryEntry) (onNetwork : List Hub) :
    Prop where
  wanted : ∀ hub, (onNetwork.find? fun hub => some hub.deviceId = wanted config inventory) =
    some hub → Reference.isLanAddress hub.host = true ∨
      (∀ other ∈ onNetwork, ¬ Trusted config inventory other) ∧
        configuredTarget config inventory = some (.ofHub hub)
  other : (∀ hub ∈ onNetwork, some hub.deviceId ≠ HubChoice.wanted config inventory) →
    ∀ hub, onNetwork.head? = some hub → config.deviceId = none ∧
      (∃ entry ∈ inventory, entry.isGateway = true ∧ entry.did = some hub.deviceId) ∧
        Reference.isLanAddress hub.host = true

variable {config : HubConfig} {inventory : List InventoryEntry} {onNetwork : List Hub} {hub : Hub}

theorem own_of_wanted {deviceId : String} (same : some deviceId = wanted config inventory) :
    Own config inventory deviceId := by
  rw [Own]
  cases configured : config.deviceId with
  | some id =>
      rw [wanted, configured, Option.some_or] at same
      exact Option.some.inj same
  | none =>
      rw [wanted, configured, Option.none_or] at same
      obtain ⟨entry, found, did⟩ := Option.bind_eq_some_iff.mp same.symm
      exact ⟨entry, List.mem_of_find?_eq_some found, List.find?_some found, did⟩

/-- Under one device id, being configured is the only way to be wanted. -/
theorem not_own_of_other {deviceId : String} (other : some deviceId ≠ wanted config inventory)
    (own : Own config inventory deviceId) : config.deviceId = none ∧
      ∃ entry ∈ inventory, entry.isGateway = true ∧ entry.did = some deviceId := by
  rw [Own] at own
  cases configured : config.deviceId with
  | some id =>
      rw [configured] at own
      rw [wanted, configured, Option.some_or, own] at other
      exact absurd rfl other
  | none =>
      rw [configured] at own
      exact ⟨rfl, own⟩

/-- The record that `findHub` takes. -/
def taken (config : HubConfig) (inventory : List InventoryEntry) (onNetwork : List Hub) :
    Option Hub :=
  (onNetwork.find? fun hub => some hub.deviceId = wanted config inventory).or onNetwork.head?

theorem mem_of_taken (found : taken config inventory onNetwork = some hub) : hub ∈ onNetwork := by
  rcases Option.or_eq_some_iff.mp found with first | ⟨-, first⟩
  · exact List.mem_of_find?_eq_some first
  · exact List.mem_of_mem_head? first

theorem taken_eq_none_iff : taken config inventory onNetwork = none ↔ onNetwork = [] := by
  rw [taken, Option.or_eq_none_iff, List.head?_eq_none_iff]
  constructor
  · exact fun both => both.2
  · rintro rfl
    exact ⟨rfl, rfl⟩

theorem Trusted.of_same {hub' : Hub} (trusted : Trusted config inventory hub')
    (same : Target.ofHub hub = .ofHub hub') : Trusted config inventory hub := by
  rw [Target.ofHub, Target.ofHub, Target.mk.injEq] at same
  obtain ⟨deviceId, host, -⟩ := same
  rw [Trusted, deviceId, host]
  exact trusted

theorem deviceId_of_configured {target : Target}
    (configured : configuredTarget config inventory = some target) :
    some target.deviceId = wanted config inventory := by
  rw [configuredTarget] at configured
  split at configured
  · rename_i known
    split at configured
    · cases configured
      exact known.symm
    · cases configured
  · cases configured

/-- Fortune is that the record that is taken may get the credentials. -/
theorem fortunate_iff : Fortunate config inventory onNetwork ↔
    ∀ hub, taken config inventory onNetwork = some hub →
      MayGet config inventory onNetwork (.ofHub hub) := by
  constructor
  · intro fortunate hub found
    rcases Option.or_eq_some_iff.mp found with first | ⟨none, first⟩
    · have named := List.find?_some first
      have own := own_of_wanted (of_decide_eq_true named)
      rcases fortunate.wanted hub first with lan | same
      · exact Or.inl ⟨hub, mem_of_taken found, ⟨own, lan⟩, rfl⟩
      · exact Or.inr same
    · have others : ∀ hub ∈ onNetwork, some hub.deviceId ≠ wanted config inventory := by
        intro other member same
        exact absurd (decide_eq_true same) (List.find?_eq_none.mp none other member)
      obtain ⟨unconfigured, listed, lan⟩ := fortunate.other others hub first
      have own : Own config inventory hub.deviceId := by
        rw [Own, unconfigured]
        exact listed
      exact Or.inl ⟨hub, mem_of_taken found, ⟨own, lan⟩, rfl⟩
  · intro may
    constructor
    · intro hub found
      rcases may hub (by rw [taken, found, Option.some_or]) with ⟨hub', -, trusted, same⟩ | same
      · exact Or.inl (trusted.of_same same).2
      · exact Or.inr same
    · intro others hub first
      have none : (onNetwork.find? fun hub => some hub.deviceId = wanted config inventory) =
          none := List.find?_eq_none.mpr fun other member same =>
        others other member (of_decide_eq_true same)
      have foreign := others hub (List.mem_of_mem_head? first)
      rcases may hub (by rw [taken, none, Option.none_or, first]) with
        ⟨hub', -, trusted, same⟩ | ⟨-, configured⟩
      · obtain ⟨own, lan⟩ := trusted.of_same same
        obtain ⟨unconfigured, listed⟩ := not_own_of_other foreign own
        exact ⟨unconfigured, listed, lan⟩
      · exact absurd (deviceId_of_configured configured) foreign

theorem findHub_of_taken (found : taken config inventory onNetwork = some hub) :
    findHub config inventory onNetwork = some (.ofHub hub) := by
  rw [taken] at found
  simp only [findHub, found]

theorem keeps_connect {target : Target} (may : MayGet config inventory onNetwork target)
    (session : Session) (handshake : Bool) :
    ∀ deed ∈ connect target session handshake, Keeps config inventory onNetwork deed := by
  intro deed member
  rcases List.mem_cons.mp member with rfl | later
  · exact may
  · cases handshake with
    | true =>
        rw [List.mem_singleton.mp later]
        exact may
    | false => cases later

theorem keeps_start_nil (session : Session) (handshake : Bool) :
    ∀ deed ∈ start config inventory session handshake [], Keeps config inventory [] deed := by
  have fallback : findHub config inventory [] = configuredTarget config inventory := rfl
  rw [start, fallback]
  cases configured : configuredTarget config inventory with
  | none =>
      intro deed member
      rw [List.mem_singleton.mp member]
      exact ⟨fun hub absent => absurd absent List.not_mem_nil, configured⟩
  | some target =>
      apply keeps_connect
      exact Or.inr ⟨fun hub absent => absurd absent List.not_mem_nil, configured⟩

/-- The credentials are kept exactly when the records that answer happen to be such that the first
choice is the account's own hub. -/
theorem credentials_kept_iff {packets : Option (List (List UInt8))}
    (answered : Yields (fun fuel => search fuel packets) onNetwork) :
    KeepsCredentials config inventory packets ↔ Fortunate config inventory onNetwork := by
  rw [fortunate_iff]
  constructor
  · intro keeps hub found
    apply keeps onNetwork answered ⟨"", ""⟩ false (.opens (.ofHub hub))
    rw [start, findHub_of_taken found]
    exact List.mem_cons_self
  · intro may onNetwork' answered' session handshake deed member
    cases Settles.unique answered answered'
    cases found : taken config inventory onNetwork with
    | none =>
        obtain rfl := taken_eq_none_iff.mp found
        exact keeps_start_nil session handshake deed member
    | some hub =>
        rw [start, findHub_of_taken found] at member
        exact keeps_connect (may hub found) session handshake deed member

/-- A packet that announces a hub `lumi2` at the host `h`, for which it gives no address. -/
def announcement : List UInt8 :=
  [0, 0, 132, 0, 0, 0, 0, 2, 0, 0, 0, 0,
    12, 95, 97, 113, 97, 114, 97, 45, 115, 101, 116, 117, 112, 4, 95, 116, 99, 112, 5, 108, 111, 99,
    97, 108, 0,
    0, 33, 0, 1, 0, 0, 0, 120, 0, 9, 0, 0, 0, 0, 17, 91, 1, 104, 0,
    192, 12, 0, 16, 0, 1, 0, 0, 0, 120, 0, 9, 8, 105, 100, 61, 108, 117, 109, 105, 50]

def announcedService : Entry :=
  ⟨⟨12, ["_aqara-setup", "_tcp", "local"], 0, 37⟩, 33, [0, 0, 0, 0, 17, 91, 1, 104, 0]⟩

def announcedText : Entry :=
  ⟨⟨56, ["_aqara-setup", "_tcp", "local"], 1, 58⟩, 16, txtData [.pair "id" (Utf8.encode "lumi2")]⟩

/-- The hub that it announces. -/
def stranger : Hub := ⟨"lumi2", "h", 4443, service⟩

theorem service_stands : announcedService.toPlace.Stands announcement := by
  apply NameAt.label (by simp)
  · decide
  · rfl
  · rfl
  apply NameAt.label (by simp)
  · decide
  · rfl
  · rfl
  apply NameAt.label (by simp)
  · decide
  · rfl
  · rfl
  exact .root rfl

theorem announcement_response : Response announcement [] [announcedService, announcedText] where
  header := by decide
  questionCount := rfl
  recordCount := rfl
  body := by
    have stands : announcedText.toPlace.Stands announcement :=
      .pointer (show 12 < 0x4000 by omega) rfl rfl service_stands
    exact ⟨12, .done, .record service_stands (by decide) rfl rfl rfl
      (.record stands (by decide) rfl rfl rfl .done)⟩

theorem host_stands : Names announcement 53 "h" 56 := by
  have stands : NameAt announcement 53 ["h"] 0 56 := by
    apply NameAt.label (by simp)
    · decide
    · rfl
    · rfl
    exact .root rfl
  exact yields_readName_iff.mp (stands.yields_iff.mpr (Nat.zero_le 1))

/-- What the announcement tells: its records, and the target of the service. -/
def announced : List (Record × String) :=
  [(announcedService.record announcement, "h"), (announcedText.record announcement, "")]

theorem brings_announced : Brings announcement announced := by
  constructor
  · apply announcement_response.carries
    intro place member
    rcases List.mem_pair.mp member with rfl | rfl
    · exact Nat.zero_le 1
    · exact Nat.le_refl 1
  · intro item member
    rcases List.mem_pair.mp member with rfl | rfl
    · refine ⟨fun _ => ⟨by decide, ?_⟩, fun _ => ⟨56, host_stands⟩⟩
      exact exists_names_iff.mp ⟨_, _, host_stands⟩
    · exact ⟨nofun, nofun⟩

/-- What has been heard once the announcement has been heard. -/
theorem notedAll_announced : notedAll .nothing announced =
    ⟨Dictionary.empty.set service ⟨some (4443, "h"), some "lumi2"⟩, .empty⟩ := by
  have told : (parseTxt announcedText.data).get? "id" = some "lumi2" := by
    have valid : TxtString.Valid (.pair "id" (Utf8.encode "lumi2")) := ⟨by decide, by simp, by simp⟩
    have text : parseTxt announcedText.data = put .empty (.pair "id" (Utf8.encode "lumi2")) :=
      parseTxtLoop_txtData (List.forall_mem_singleton.mpr valid) .empty
    rw [text]
    rfl
  have heard : noted (noted .nothing (announcedService.record announcement) "h")
      (announcedText.record announcement) "" =
      (noted .nothing (announcedService.record announcement) "h").setService service
        ⟨some (4443, "h"), (parseTxt announcedText.data).get? "id"⟩ := rfl
  change noted (noted .nothing (announcedService.record announcement) "h")
      (announcedText.record announcement) "" = _
  rw [heard, told]
  rfl

theorem stranger_found : Yields (fun fuel => search fuel (some [announcement])) [stranger] := by
  apply yields_hubsAfter_iff.mpr
  refine ⟨announced ++ [], .more brings_announced .none, ?_⟩
  rw [List.append_nil, notedAll_announced]
  rfl

/-- The account's hub is configured with its host, and does not answer in time. -/
def quiet : HubConfig := ⟨some "lumi1", some "192.168.1.5", some 4443⟩

theorem stranger_not_kept :
    KeepsCredentials quiet [] (some [announcement]) ↔ Fortunate quiet [] [stranger] :=
  credentials_kept_iff stranger_found

/-- The only hub that answers gets the user id and the token of the account, whose hub it is. -/
theorem stranger_gets_credentials :
    ¬ ∀ config inventory packets, KeepsCredentials config inventory packets := by
  intro keeps
  have sent : .checksIn ⟨"lumi2", "h", 4443⟩ "user" "token" ∈
      start quiet [] ⟨"user", "token"⟩ true [stranger] := by
    rw [start, findHub_of_taken (show taken quiet [] [stranger] = some stranger by rfl)]
    exact List.mem_cons_of_mem _ List.mem_cons_self
  rcases keeps quiet [] _ _ stranger_found _ _ _ sent with ⟨hub, member, ⟨own, -⟩, -⟩ | ⟨-, same⟩
  · rw [List.mem_singleton.mp member, Own] at own
    exact absurd own (by simp [quiet, stranger])
  · exact absurd (deviceId_of_configured same) (by simp [wanted, quiet])

end HubChoice
end Comparison
end AqaraLanLink
