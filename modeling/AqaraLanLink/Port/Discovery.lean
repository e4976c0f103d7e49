import AqaraLanLink.Library.Dictionary
import AqaraLanLink.Library.Outcome
import AqaraLanLink.Library.Trails
import AqaraLanLink.Library.Utf8
import AqaraLanLink.Port.Crypto

/-!
# Looking for hubs

`src/protocol/discovery.js`: the records of an mDNS packet, and the hubs that a socket has heard of
when its time is up.  A name is read by following pointers through the packet, which is a loop
without a bound; it is executed for a number of turns, its fuel.
-/

namespace AqaraLanLink
namespace Port
namespace Discovery

open Library

/-- `_aqara-setup._tcp.local`. -/
def service : String := "_aqara-setup._tcp.local"

/-- Record types, as the wire numbers them. -/
def typeTxt : ℕ := 16
def typeSrv : ℕ := 33
def typeA : ℕ := 1

/-! ## Names -/

/-- `labels.join('.')`. -/
def join (labels : List String) : String := String.intercalate "." labels

/-- The byte is the first one of a pointer: its top two bits are set. -/
def isPointer (length : UInt8) : Bool := length &&& 0xC0 == 0xC0

/-- Where the pointer at an offset leads.  A byte past the end of the packet counts as zero. -/
def pointer (packet : List UInt8) (cursor : ℕ) : ℕ :=
  ((packet.getD cursor 0).toNat &&& 0x3F) <<< 8 ||| (packet.getD (cursor + 1) 0).toNat

/-- `packet.subarray(start, start + length)`. -/
def slice (packet : List UInt8) (start length : ℕ) : List UInt8 :=
  (packet.drop start).take length

/-- The loop of `readName`: the labels so far, the cursor, and `after`. -/
def readNameLoop (packet : List UInt8) :
    ℕ → List String → ℕ → Option ℕ → Outcome String (String × ℕ)
  | 0, _, _, _ => .running
  | fuel + 1, labels, cursor, after =>
      match packet[cursor]? with
      | none => .returns (join labels, after.getD cursor)
      | some length =>
          if length = 0 then .returns (join labels, after.getD (cursor + 1))
          else if isPointer length then
            readNameLoop packet fuel labels (pointer packet cursor) (some (cursor + 2))
          else
            readNameLoop packet fuel
              (labels ++ [Utf8.decode (slice packet (cursor + 1) length.toNat)])
              (cursor + 1 + length.toNat) after

/-- `readName`: the name at an offset, and where reading should carry on. -/
def readName (fuel : ℕ) (packet : List UInt8) (offset : ℕ) : Outcome String (String × ℕ) :=
  readNameLoop packet fuel [] offset none

/-! ## Records -/

/-- A record of a packet. -/
structure Record where
  name : String
  type : ℕ
  data : List UInt8
  /-- Where the data starts. -/
  dataAt : ℕ
  packet : List UInt8
  deriving DecidableEq, Repr

/-- The questions of a packet are read over: where they end. -/
def skipQuestions (fuel : ℕ) (packet : List UInt8) : ℕ → ℕ → Outcome String ℕ
  | 0, offset => .returns offset
  | questions + 1, offset => do
      let (_, next) ← readName fuel packet offset
      skipQuestions fuel packet questions (next + 4)

/-- The record whose name ends at an offset. -/
def recordAt (packet : List UInt8) (name : String) (afterName : ℕ) : Record where
  name := name
  type := readUInt16BE packet afterName
  data := slice packet (afterName + 10) (readUInt16BE packet (afterName + 8))
  dataAt := afterName + 10
  packet := packet

/-- The records from an offset on, as many as are announced and there. -/
def readRecords (fuel : ℕ) (packet : List UInt8) : ℕ → ℕ → Outcome String (List Record)
  | 0, _ => .returns []
  | total + 1, offset =>
      if offset < packet.length then do
        let (name, afterName) ← readName fuel packet offset
        if packet.length < afterName + 10 then .returns []
        else do
          let record := recordAt packet name afterName
          let others ← readRecords fuel packet total
            (record.dataAt + readUInt16BE packet (afterName + 8))
          .returns (record :: others)
      else .returns []

/-- How many questions a packet announces, and how many records. -/
def questionCount (packet : List UInt8) : ℕ := readUInt16BE packet 4

def recordCount (packet : List UInt8) : ℕ :=
  readUInt16BE packet 6 + readUInt16BE packet 8 + readUInt16BE packet 10

/-- `parseRecords`. -/
def parseRecords (fuel : ℕ) (packet : List UInt8) : Outcome String (List Record) :=
  if packet.length < 12 then .returns []
  else do
    let offset ← skipQuestions fuel packet (questionCount packet) 12
    readRecords fuel packet (recordCount packet) offset

/-! ## Texts -/

/-- `values[key] = value` on an object literal, whose `__proto__` does not take a string. -/
def assign (values : Dictionary String String) (key value : String) : Dictionary String String :=
  if key = "__proto__" then values else values.set key value

/-- One entry of a TXT record. -/
def putEntry (values : Dictionary String String) (entry : String) : Dictionary String String :=
  match entry.toList.findIdx? (· = '=') with
  | some equals =>
      if 0 < equals then
        assign values (String.ofList (entry.toList.take equals))
          (String.ofList (entry.toList.drop (equals + 1)))
      else values
  | none => values

/-- The loop of `parseTxt` over what is left of the data. -/
def parseTxtLoop (values : Dictionary String String) : List UInt8 → Dictionary String String
  | [] => values
  | length :: data =>
      parseTxtLoop (putEntry values (Utf8.decode (data.take length.toNat))) (data.drop length.toNat)
  termination_by data => data.length
  decreasing_by
    simp only [List.length_drop, List.length_cons]
    omega

/-- `parseTxt`. -/
def parseTxt (data : List UInt8) : Dictionary String String := parseTxtLoop .empty data

/-! ## Hubs -/

/-- What has been heard about a service; its name is the key under which it stands. -/
structure Service where
  /-- The port and the target, which are set together. -/
  endpoint : Option (ℕ × String)
  deviceId : Option String
  deriving DecidableEq, Repr

/-- The maps of a search: services by name, and addresses by host name. -/
structure Heard where
  services : Dictionary String Service
  addresses : Dictionary String String

/-- A hub that has answered. -/
structure Hub where
  deviceId : String
  host : String
  port : ℕ
  name : String
  deriving DecidableEq, Repr

namespace Heard

/-- Nothing has been heard. -/
def nothing : Heard := ⟨.empty, .empty⟩

/-- `services.get(name) ?? { name }`. -/
def existing (heard : Heard) (name : String) : Service :=
  (heard.services.get? name).getD ⟨none, none⟩

/-- `services.set(name, service)`. -/
def setService (heard : Heard) (name : String) (service : Service) : Heard :=
  { heard with services := heard.services.set name service }

end Heard

/-- `data.readUInt16BE(4)`, which throws where the data ends before. -/
def readPort (data : List UInt8) : Outcome String ℕ :=
  if data.length < 6 then .throws "ERR_OUT_OF_RANGE" else .returns (readUInt16BE data 4)

/-- `Array.from(data).join('.')`. -/
def dotted (data : List UInt8) : String := join (data.map fun byte => toString byte.toNat)

/-- What a record adds to what has been heard. -/
def hearRecord (fuel : ℕ) (heard : Heard) (record : Record) : Outcome String Heard :=
  let existing := heard.existing record.name
  if record.type = typeSrv then do
    let port ← readPort record.data
    let (target, _) ← readName fuel record.packet (record.dataAt + 6)
    .returns (heard.setService record.name { existing with endpoint := some (port, target) })
  else if record.type = typeTxt then
    .returns (heard.setService record.name
      { existing with deviceId := (parseTxt record.data).get? "id" })
  else if record.type = typeA ∧ record.data.length = 4 then
    .returns { heard with addresses := heard.addresses.set record.name (dotted record.data) }
  else .returns heard

/-- The `message` handler. -/
def onMessage (fuel : ℕ) (heard : Heard) (packet : List UInt8) : Outcome String Heard := do
  let records ← parseRecords fuel packet
  records.foldlM (hearRecord fuel) heard

/-- Only the Aqara service counts. -/
def isAqara (name : String) : Bool := service.toList.isSuffixOf name.toList

/-- The hub that a service stands for, once its port and its device id are known. -/
def hubOf (heard : Heard) (entry : String × Service) : Option Hub :=
  if isAqara entry.1 then
    match entry.2.endpoint, entry.2.deviceId with
    | some (port, target), some deviceId =>
        if deviceId ≠ "" ∧ port ≠ 0 then
          some ⟨deviceId, (heard.addresses.get? target).getD target, port, entry.1⟩
        else none
    | _, _ => none
  else none

/-- `finish`. -/
def finish (heard : Heard) : List Hub := heard.services.entries.filterMap (hubOf heard)

/-- What has been heard once some packets have come in. -/
def hearAll (fuel : ℕ) (heard : Heard) (packets : List (List UInt8)) : Outcome String Heard :=
  packets.foldlM (onMessage fuel) heard

/-- The hubs that are found once some more packets have come in. -/
def hubsAfter (fuel : ℕ) (heard : Heard) (packets : List (List UInt8)) :
    Outcome String (List Hub) := do
  let heard ← hearAll fuel heard packets
  .returns (finish heard)

/-- `discoverHubs`, on a network on which these packets come in. -/
def discoverHubs (fuel : ℕ) (packets : List (List UInt8)) : Outcome String (List Hub) :=
  hubsAfter fuel .nothing packets

end Discovery
end Port
end AqaraLanLink
