import AqaraLanLink.Port.Device

/-!
# The port's message listener

`AqaraPlatform.onMessage`: which of the hub's messages are reports, and which device they go to.
-/

namespace AqaraLanLink
namespace Port

/-- The devices a platform has published, by device id. -/
structure Platform where
  /-- The device map; its keys are distinct. -/
  devices : List (String × AqaraDevice)

namespace Platform

/-- `devices.get`, for whatever value the report has in its place. -/
def device? (platform : Platform) : Option Json → Option (String × AqaraDevice)
  | some (.string did) => (platform.devices.lookup did).map fun device => (did, device)
  | _ => none

/-- Replace the device under a key. -/
def setDevice (platform : Platform) (did : String) (device : AqaraDevice) : Platform :=
  { devices := platform.devices.map fun entry =>
      if entry.1 = did then (did, device) else entry }

/-- `message?.cmd === 'report'`. -/
def isReport (message : Json) : Bool :=
  (message.get? "cmd").any fun cmd => cmd.strictEq (.string "report")

/-- The values that a report's payload carries. -/
def attrsOf (data : Json) : Json :=
  Json.coalesce (data.get? "attrs") (Json.coalesce (data.get? "values") (.object []))

/-- Whether `connect` publishes: it asks whether `checkin` has an answer at all. -/
def publishes (answer : Except String Json) : Bool :=
  match answer with
  | .ok answer => answer.jsTruthy
  | .error _ => false

/-- What the hub said without being asked. -/
def onMessage (platform : Platform) (message : Json) : Except String Platform :=
  if ¬ isReport message then .ok platform
  else
    let data := Json.coalesce (message.get? "data") (.object [])
    match platform.device? (data.get? "did") with
    | none => .ok platform
    | some (did, device) => do
        let (device, _) ← device.report (attrsOf data)
        pure (platform.setDevice did device)

end Platform
end Port
end AqaraLanLink
