import AqaraLanLink.Json

/-!
# The reference's messages

`hub/protocol.py`, and the framing of reads and writes in `hub/coordinator.py`: the messages that the
Home Assistant integration sends, the reports it accepts, and the two directions between the
three-part paths of the catalogue and the four-part keys of the wire.
-/

namespace AqaraLanLink
namespace Reference

/-! ## Text -/

/-- The code points for which Python's `str.isdigit` holds. -/
def digitRanges : List (ℕ × ℕ) :=
  [(0x30, 0x39), (0xB2, 0xB3), (0xB9, 0xB9), (0x660, 0x669), (0x6F0, 0x6F9), (0x7C0, 0x7C9),
    (0x966, 0x96F), (0x9E6, 0x9EF), (0xA66, 0xA6F), (0xAE6, 0xAEF), (0xB66, 0xB6F),
    (0xBE6, 0xBEF), (0xC66, 0xC6F), (0xCE6, 0xCEF), (0xD66, 0xD6F), (0xDE6, 0xDEF),
    (0xE50, 0xE59), (0xED0, 0xED9), (0xF20, 0xF29), (0x1040, 0x1049), (0x1090, 0x1099),
    (0x1369, 0x1371), (0x17E0, 0x17E9), (0x1810, 0x1819), (0x1946, 0x194F), (0x19D0, 0x19DA),
    (0x1A80, 0x1A89), (0x1A90, 0x1A99), (0x1B50, 0x1B59), (0x1BB0, 0x1BB9), (0x1C40, 0x1C49),
    (0x1C50, 0x1C59), (0x2070, 0x2070), (0x2074, 0x2079), (0x2080, 0x2089), (0x2460, 0x2468),
    (0x2474, 0x247C), (0x2488, 0x2490), (0x24EA, 0x24EA), (0x24F5, 0x24FD), (0x24FF, 0x24FF),
    (0x2776, 0x277E), (0x2780, 0x2788), (0x278A, 0x2792), (0xA620, 0xA629), (0xA8D0, 0xA8D9),
    (0xA900, 0xA909), (0xA9D0, 0xA9D9), (0xA9F0, 0xA9F9), (0xAA50, 0xAA59), (0xABF0, 0xABF9),
    (0xFF10, 0xFF19), (0x104A0, 0x104A9), (0x10A40, 0x10A43), (0x10D30, 0x10D39),
    (0x10E60, 0x10E68), (0x11052, 0x1105A), (0x11066, 0x1106F), (0x110F0, 0x110F9),
    (0x11136, 0x1113F), (0x111D0, 0x111D9), (0x112F0, 0x112F9), (0x11450, 0x11459),
    (0x114D0, 0x114D9), (0x11650, 0x11659), (0x116C0, 0x116C9), (0x11730, 0x11739),
    (0x118E0, 0x118E9), (0x11950, 0x11959), (0x11C50, 0x11C59), (0x11D50, 0x11D59),
    (0x11DA0, 0x11DA9), (0x11F50, 0x11F59), (0x16A60, 0x16A69), (0x16AC0, 0x16AC9),
    (0x16B50, 0x16B59), (0x1D7CE, 0x1D7FF), (0x1E140, 0x1E149), (0x1E2F0, 0x1E2F9),
    (0x1E4F0, 0x1E4F9), (0x1E950, 0x1E959), (0x1F100, 0x1F10A), (0x1FBF0, 0x1FBF9)]

/-- Python's `str.isdigit`. -/
def isdigit (text : List Char) : Bool :=
  !text.isEmpty && text.all fun char =>
    digitRanges.any fun range => decide (range.1 ≤ char.toNat) && decide (char.toNat ≤ range.2)

/-- Python's `key.split(".")`. -/
def splitDots (key : String) : List (List Char) := key.toList.splitOn '.'

/-- Python's `".".join(parts)`. -/
def joinDots (parts : List (List Char)) : String := String.ofList (['.'].intercalate parts)

/-- Strip a trailing `.<digits>` resource index from a key of more than three parts. -/
def canonicalizeReportKey (key : String) : String :=
  let parts := splitDots key
  if 3 < parts.length ∧ (parts.getLast?.any isdigit) then joinDots parts.dropLast else key

/-- Append the resource index `.1` to a path of three parts. -/
def toWirePath (path : String) : String :=
  if path.toList.count '.' = 2 then path ++ ".1" else path

/-! ## Messages going out -/

/-- A session check-in. -/
def buildCheckin (seq : ℕ) (userId deviceId token : String) : Json :=
  .object [("seq", .number seq), ("type", .string "session"), ("cmd", .string "checkin"),
    ("data", .object [("user", .string userId), ("did", .string deviceId),
      ("aid", .string token)])]

/-- A read; without an `sdid` it is addressed to the device itself. -/
def buildRead (seq : ℕ) (deviceId model : String) (attrs : List String) (sdid : Option String) :
    Json :=
  .object [("seq", .number seq), ("type", .string "device"), ("cmd", .string "read"),
    ("data", .object [("did", .string deviceId), ("sdid", .string (sdid.getD deviceId)),
      ("model", .string model), ("value", .array (attrs.map .string))])]

/-- A write; `src` carries the time of the call. -/
def buildWrite (seq : ℕ) (deviceId model : String) (attrs : List (String × Json))
    (sdid : Option String) (src : String) : Json :=
  .object [("seq", .number seq), ("type", .string "device"), ("cmd", .string "write"),
    ("data", .object [("did", .string deviceId), ("sdid", .string (sdid.getD deviceId)),
      ("model", .string model), ("src", .string src), ("value", .object attrs)])]

/-- The hub a coordinator is connected to. -/
structure Hub where
  /-- `_device_id`. -/
  deviceId : String
  /-- `_model`. -/
  model : String

namespace Hub

/-- The `(did, sdid)` framing of a write. -/
def resolveWriteFraming (hub : Hub) (did : String) (parentDid : Option String) :
    String × Option String :=
  let wireDid :=
    match parentDid with
    | some "" => did
    | some parent => parent
    | none => if did = hub.deviceId then did else hub.deviceId
  (wireDid, if wireDid = did then none else some did)

/-- The message of `async_write` for wire-path traits. -/
def writeMessage (hub : Hub) (seq : ℕ) (did model : String) (attrs : List (String × Json))
    (parentDid : Option String) (src : String) : Json :=
  let payload := attrs.map fun (name, value) => (toWirePath name, value)
  let (wireDid, sdid) := hub.resolveWriteFraming did parentDid
  buildWrite seq wireDid model payload sdid src

/-- The message of `async_read`. -/
def readMessage (hub : Hub) (seq : ℕ) (did model : String) (names : List String) : Json :=
  if did = hub.deviceId then buildRead seq did model names none
  else buildRead seq hub.deviceId hub.model names (some did)

end Hub

/-! ## Reports coming in -/

/-- A device report that the session accepts. -/
structure LANReport where
  /-- `data.did`, empty when it is missing. -/
  did : Json
  /-- `data.sdid`, empty when it is missing. -/
  sdid : Json
  /-- `data.value`: values by wire key. -/
  values : List (String × Json)

/-- `LANReport.from_entity` on the fields of a message. -/
def LANReport.fromEntity (message : Json) : Option LANReport :=
  match message.get? "cmd", message.get? "data" with
  | some (.string "report"), some (.object data) =>
      match (Json.object data).get? "value" with
      | some (.object values) =>
          some
            { did := ((Json.object data).get? "did").getD (.string "")
              sdid := ((Json.object data).get? "sdid").getD (.string "")
              values }
      | _ => none
  | _, _ => none

/-- The key under which `_dispatch_report` looks for handlers: `sdid`, or `did` when it is empty. -/
def LANReport.key (report : LANReport) : Json :=
  if report.sdid.truthy then report.sdid else report.did

/-- Whether the handlers registered for a device id get the report. -/
def LANReport.isFor (report : LANReport) (did : String) : Bool :=
  report.key.strictEq (.string did)

/-- Python's `".".split` gives an empty key one part. -/
theorem splitDots_empty : splitDots "" = [[]] := rfl

end Reference
end AqaraLanLink
